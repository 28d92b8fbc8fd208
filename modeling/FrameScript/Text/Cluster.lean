import FrameScript.Text.Cluster.Class

/-!
# Grapheme clusters

`clusters` cuts a text into extended grapheme clusters by the rules of Unicode Standard Annex 29:
inside a cluster a caret does not rest. The clusters are not empty (`ne_nil_of_mem_clusters`) and
put together they are the text (`flatten_clusters`).

## Implementation notes

Whether a character continues the cluster before it can depend on more than the last character:
on the number of regional indicators, on whether a pictograph precedes a joiner, on whether a
linker follows a consonant. All of it lies within the same cluster, so one pass carries a
`ClusterContext` that is begun anew with each cluster.
-/

namespace FrameScript.Text

/-- How far a cluster has come towards an emoji sequence. -/
inductive EmojiProgress
  /-- The cluster does not end like the beginning of an emoji sequence. -/
  | none
  /-- It ends with a pictograph and combining characters. -/
  | pictograph
  /-- It ends with those and a joiner. -/
  | joined
deriving DecidableEq, Repr

/-- How far a cluster has come towards a conjunct of consonants. -/
inductive ConjunctProgress
  | none
  /-- It ends with a consonant and marks. -/
  | consonant
  /-- It ends with a consonant and marks, a linker among them. -/
  | linked
deriving DecidableEq, Repr

/-- What the rest of a cluster depends on. -/
structure ClusterContext where
  /-- The class of the last character. -/
  last : ClusterClass
  /-- Whether the cluster ends with a regional indicator that has no partner yet. -/
  halfFlag : Bool
  emoji : EmojiProgress
  conjunct : ConjunctProgress
deriving DecidableEq, Repr

namespace ClusterContext

/-- The context of a cluster that consists of one character. -/
def start (cls : ClusterClass) : ClusterContext where
  last := cls
  halfFlag := cls = .regional
  emoji := if cls = .pictograph then .pictograph else .none
  conjunct := if cls = .consonant then .consonant else .none

/-- The context after one more character of the same cluster. -/
def push (ctx : ClusterContext) (cls : ClusterClass) : ClusterContext where
  last := cls
  halfFlag := cls = .regional && !ctx.halfFlag
  emoji :=
    match cls, ctx.emoji with
    | .pictograph, _ => .pictograph
    | .joiner, .pictograph => .joined
    | cls, .pictograph => if cls.isExtend then .pictograph else .none
    | _, _ => .none
  conjunct :=
    match cls, ctx.conjunct with
    | .consonant, _ => .consonant
    | _, .none => .none
    | .linker, _ => .linked
    | .extend, progress | .joiner, progress => progress
    | _, _ => .none

/-- Whether a character of the given class continues the cluster. -/
def continues (ctx : ClusterContext) (cls : ClusterClass) : Bool :=
  match ctx.last, cls with
  | .carriageReturn, .lineFeed => true
  | .leadJamo, .leadJamo | .leadJamo, .vowelJamo => true
  | .leadJamo, .openSyllable | .leadJamo, .closedSyllable => true
  | .openSyllable, .vowelJamo | .vowelJamo, .vowelJamo => true
  | .openSyllable, .tailJamo | .vowelJamo, .tailJamo => true
  | .closedSyllable, .tailJamo | .tailJamo, .tailJamo => true
  | .regional, .regional => ctx.halfFlag
  | last, cls =>
    if last.isControl || cls.isControl then false
    else if cls.isExtend || cls = .joiner || cls = .spacing || last = .prepend then true
    else if cls = .consonant then ctx.conjunct = .linked
    else cls = .pictograph && ctx.emoji = .joined

end ClusterContext

/-- The rest of the cluster that has been read up to the given context, and the clusters after
it. -/
def clustersFrom (ctx : ClusterContext) : Text → Text × List Text
  | [] => ([], [])
  | c :: rest =>
    let cls := ClusterClass.of c
    if ctx.continues cls then
      let (tail, more) := clustersFrom (ctx.push cls) rest
      (c :: tail, more)
    else
      let (tail, more) := clustersFrom (.start cls) rest
      ([], (c :: tail) :: more)

/-- The grapheme clusters of a text, in order. -/
def clusters : Text → List Text
  | [] => []
  | c :: rest =>
    let (tail, more) := clustersFrom (.start (ClusterClass.of c)) rest
    (c :: tail) :: more

/-! ### Clusters partition the text -/

theorem append_flatten_clustersFrom (ctx : ClusterContext) (t : Text) :
    (clustersFrom ctx t).1 ++ (clustersFrom ctx t).2.flatten = t := by
  induction t generalizing ctx with
  | nil => rfl
  | cons c rest ih =>
    rw [clustersFrom]
    split
    · simpa using ih (ctx.push (ClusterClass.of c))
    · simpa using ih (.start (ClusterClass.of c))

theorem ne_nil_of_mem_clustersFrom {ctx : ClusterContext} {t cluster : Text}
    (h : cluster ∈ (clustersFrom ctx t).2) : cluster ≠ [] := by
  induction t generalizing ctx with
  | nil => simp [clustersFrom] at h
  | cons c rest ih =>
    rw [clustersFrom] at h
    split at h
    · exact ih h
    · rcases List.mem_cons.1 h with rfl | h
      · simp
      · exact ih h

@[simp] theorem flatten_clusters (t : Text) : (clusters t).flatten = t := by
  cases t with
  | nil => rfl
  | cons c rest => simpa [clusters] using append_flatten_clustersFrom (.start (ClusterClass.of c)) rest

theorem ne_nil_of_mem_clusters {t cluster : Text} (h : cluster ∈ clusters t) : cluster ≠ [] := by
  cases t with
  | nil => simp [clusters] at h
  | cons c rest =>
    rcases List.mem_cons.1 h with rfl | h
    · simp
    · exact ne_nil_of_mem_clustersFrom h

-- to columns the clusters are what `Display` says of them
attribute [irreducible] clusters

end FrameScript.Text
