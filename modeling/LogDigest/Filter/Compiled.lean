import LogDigest.Event
import LogDigest.Filter.Criterion

/-!
# Filters

A filter text joins criteria with the words `AND` and `OR`. Between two of these words all words
belong to one criterion; where there are none, there is no criterion. Under the legacy reading both
words mean "and". Under the other reading `OR` separates groups of criteria, of which one has to
hold in full. A filter without criteria admits every record.
-/

namespace LogDigest

open Text

/-- What the words `AND` and `OR` mean. -/
inductive Connectives where
  /-- Both mean "and". -/
  | legacy
  /-- `OR` separates groups of criteria. -/
  | orOfAnds
deriving DecidableEq, Repr

namespace Connectives

/-- The name of a reading. -/
def label : Connectives → String
  | legacy => "legacy"
  | orOfAnds => "or-of-ands"

/-- The reading that a setting names. -/
def ofText (s : String) : Except String Connectives :=
  let name := lower (String.ofList (trim s.toList))
  if name = "legacy" ∨ name = "all-and" then .ok .legacy
  else if name = "or-of-ands" then .ok .orOfAnds
  else .error s!"unknown connectives '{name}'"

end Connectives

/-! ## From text to criterion texts -/

/-- The word `AND`. -/
def andWord : List Char := ['A', 'N', 'D']

/-- The word `OR`. -/
def orWord : List Char := ['O', 'R']

/-- A filter text that is cut word by word. -/
structure FilterLexer where
  /-- The groups that are complete. -/
  groups : List (List (List Char)) := []
  /-- The criterion texts of the group under way. -/
  group : List (List Char) := []
  /-- The words of the criterion text under way. -/
  pending : List (List Char) := []
deriving DecidableEq, Repr

namespace FilterLexer

/-- Completes the criterion text under way, if it has words. -/
def flushCriterion (l : FilterLexer) : FilterLexer :=
  if l.pending.isEmpty then l else { l with group := l.group ++ [unwords l.pending], pending := [] }

/-- Completes the group under way, if it has criterion texts. -/
def flushGroup (l : FilterLexer) : FilterLexer :=
  if l.group.isEmpty then l else { l with groups := l.groups ++ [l.group], group := [] }

/-- Takes one more word. -/
def step (connectives : Connectives) (l : FilterLexer) (w : List Char) : FilterLexer :=
  if w = orWord ∧ connectives = .orOfAnds then l.flushCriterion.flushGroup
  else if w = andWord ∨ w = orWord then l.flushCriterion
  else { l with pending := l.pending ++ [w] }

end FilterLexer

/-- The groups of criterion texts of a filter text. -/
def criterionGroups (connectives : Connectives) (text : List Char) : List (List (List Char)) :=
  let l := (words text).foldl (FilterLexer.step connectives) {}
  l.flushCriterion.flushGroup.groups

/-! ## Compiled filters -/

/-- Groups of criteria, of which one has to hold in full, unless there are none. -/
structure CompiledFilter where
  groups : List (List Criterion) := []
deriving DecidableEq, Repr

namespace CompiledFilter

/-- Whether the filter admits every record because it has no criteria. -/
def isAlways (f : CompiledFilter) : Bool := f.groups.isEmpty

/-- The criteria of all groups in their order. -/
def criteria (f : CompiledFilter) : List Criterion := f.groups.flatten

def admits (f : CompiledFilter) (e : Entry) : Bool :=
  f.isAlways || f.groups.any fun group => group.all fun c => c.holds e

/-- Drops the records that the filter does not admit. A filter without criteria is not asked. -/
def retain (f : CompiledFilter) (records : List Record) : List Record :=
  if f.isAlways then records else records.filter fun r => f.admits r.toEntry

/-- Reads every text, up to the first that is no criterion. -/
def readAll : List (List Char) → Except FilterError (List Criterion)
  | [] => .ok []
  | t :: ts =>
    match Criterion.ofText t with
    | .error e => .error e
    | .ok c => (readAll ts).map (c :: ·)

/-- Reads every group, up to the first with a text that is no criterion. -/
def readGroups : List (List (List Char)) → Except FilterError (List (List Criterion))
  | [] => .ok []
  | g :: gs =>
    match readAll g with
    | .error e => .error e
    | .ok cs => (readGroups gs).map (cs :: ·)

def ofText (connectives : Connectives) (text : String) : Except FilterError CompiledFilter :=
  (readGroups (criterionGroups connectives text.toList)).map fun groups => { groups }

def event (f : CompiledFilter) (connectives : Connectives) (text : String) : Event :=
  .filterCompiled text connectives.label f.groups.length

end CompiledFilter

end LogDigest
