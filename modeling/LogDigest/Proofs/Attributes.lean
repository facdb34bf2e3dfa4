import LogDigest.Proofs.Printing
import Mathlib.Algebra.Group.Int.Defs

/-!
# A criterion selects the records that share an attribute

What a record says under a field is an attribute (`Entry.attribute?`): a text, an integer or a
moment, or nothing. Written behind the field's name and an equals sign, it is a filter that admits
exactly the records with the attribute that is written (`Record.attribute_selects`).

**Evaluation** (`Criterion.holds_iff`). A criterion is about one attribute, and holds for the
entries that have it. A value of another kind than its field asks for is an attribute that no entry
has under that field, so the criterion never holds.

**What is shown** (`Attribute.shown`). A moment is written by the numbers on a clock, so what is
read is the moment that they name. That is another moment in a leap second that clocks hide, and
only there.

**The written attribute.** A text that consists of its words with single spaces between them, none
of which joins criteria, makes one clause with the name before it. The name stands for the field in
any letter case, and the value is read as the attribute that was written.
-/

namespace LogDigest

open Text

/-! ## Attributes -/

/-- What a record says under a field. -/
inductive Attribute where
  | text (s : String)
  | integer (n : Int)
  | moment (t : Timestamp)
deriving DecidableEq, Repr

namespace Attribute

def written : Attribute → String
  | text s => s
  | integer n => toString n
  | moment t => t.exact

/-- The attribute that the writing names. -/
def shown : Attribute → Attribute
  | moment t => moment t.shown
  | a => a

theorem shown_eq_self_iff {a : Attribute} :
    a.shown = a ↔ ∀ t, a = .moment t → t.time.IsShown := by
  cases a with
  | text s => simp [shown]
  | integer n => simp [shown]
  | moment t => simp [shown, Timestamp.shown_eq_self_iff]

/-- The writing stands for itself in a filter text: it has no equals sign, is its words with single
spaces between them, and none of these joins criteria. -/
structure IsWritable (a : Attribute) : Prop where
  equals : '=' ∉ a.written.toList
  spaces : unwords (words a.written.toList) = a.written.toList
  connectors : ∀ w ∈ words a.written.toList, w ≠ andWord ∧ w ≠ orWord

end Attribute

/-- What an entry says under a field, if anything. An identity belongs to no entry. -/
def Entry.attribute? (e : Entry) : Field → Option Attribute
  | .timestamp => some (.moment e.timestamp)
  | .level => some (.text e.level)
  | .message => some (.text e.message)
  | .sourceIp => e.sourceIp.map .text
  | .request => e.request.map .text
  | .statusCode => some (.integer e.statusCode.toInt)
  | .threadId => e.threadId.map fun n => .integer n.toInt
  | .source => e.source.map .text
  | .user => e.user.map .text
  | .size => e.size.map fun n => .integer n.toNat
  | .id => none

def CriterionValue.attribute : CriterionValue → Attribute
  | .text s => .text s
  | .integer n => .integer n.toInt
  | .moment t => .moment t

/-- **A criterion holds for the entries that have its attribute.** -/
theorem Criterion.holds_iff {c : Criterion} {e : Entry} :
    c.holds e = true ↔ e.attribute? c.field = some c.value.attribute := by
  obtain ⟨field, value⟩ := c
  cases value <;> cases field <;>
    simp [holds, textAttribute?, integerAttribute?, Entry.attribute?, CriterionValue.attribute]

/-! ## Names of fields -/

namespace Text

/-- Only capital letters change when letters are made small. -/
theorem toLower_of_isUpper_eq_false {c : Char} (h : c.isUpper = false) : c.toLower = c := by
  have hcapital : ¬ (c.val ≥ 65 ∧ c.val ≤ 90) := of_decide_eq_false h
  exact dif_neg hcapital

/-- A capital letter is none of the blanks. -/
theorem isUpper_eq_false_of_isBlank {c : Char} (h : isBlank c = true) : c.isUpper = false := by
  by_contra hupper
  have hcapital : c.val ≥ 65 ∧ c.val ≤ 90 := of_decide_eq_true (Bool.of_not_eq_false hupper)
  have hlow : 65 ≤ c.toNat := UInt32.le_iff_toNat_le.1 hcapital.1
  have hhigh : c.toNat ≤ 90 := UInt32.le_iff_toNat_le.1 hcapital.2
  simp only [isBlank, inRanges, blankRanges, List.any_cons, List.any_nil, Bool.or_false,
    Bool.or_eq_true, Bool.and_eq_true, decide_eq_true_eq] at h
  omega

/-- What is no capital letter stays in a text whose letters are made small. -/
theorem mem_lower_of_mem {s : String} {c : Char} (h : c ∈ s.toList) (hc : c.isUpper = false) :
    c ∈ (lower s).toList := by
  rw [lower, String.toList_ofList, ← toLower_of_isUpper_eq_false hc]
  exact List.mem_map_of_mem h

end Text

namespace Field

/-- The text is a name of the field, in any letter case. -/
def IsSpelled (f : Field) (name : String) : Prop := ∃ n ∈ f.names, sameLetters n name = true

/-- A name in small letters has no blank and no equals sign. -/
theorem lower_of_mem_names {f : Field} {n : String} (hn : n ∈ f.names) :
    NoBlank (lower n).toList ∧ '=' ∉ (lower n).toList ∧ (lower n).toList ≠ [] := by
  revert n
  cases f <;> decide +kernel

/-- No two fields have names that differ in letter case only. -/
theorem eq_of_lower_eq {f g : Field} {n m : String} (hn : n ∈ f.names) (hm : m ∈ g.names)
    (h : lower n = lower m) : f = g := by
  have hall : ∀ f ∈ all, ∀ g ∈ all, ∀ n ∈ f.names, ∀ m ∈ g.names, lower n = lower m → f = g := by
    decide +kernel
  exact hall f (by cases f <;> decide) g (by cases g <;> decide) n hn m hm h

namespace IsSpelled

variable {f : Field} {name : String}

theorem isWord (h : f.IsSpelled name) : IsWord name.toList := by
  obtain ⟨n, hn, hname⟩ := h
  obtain ⟨hblank, -, hne⟩ := lower_of_mem_names hn
  rw [beq_iff_eq.1 hname] at hblank hne
  refine ⟨fun hnil => hne ?_, fun c hc => ?_⟩
  · rw [lower, hnil]
    rfl
  · by_contra hc'
    rw [Bool.not_eq_false] at hc'
    have hsmall := hblank c (mem_lower_of_mem hc (isUpper_eq_false_of_isBlank hc'))
    rw [hc'] at hsmall
    cases hsmall

theorem equals_notMem (h : f.IsSpelled name) : '=' ∉ name.toList := by
  obtain ⟨n, hn, hname⟩ := h
  obtain ⟨-, hequals, -⟩ := lower_of_mem_names hn
  rw [beq_iff_eq.1 hname] at hequals
  exact fun hmem => hequals (mem_lower_of_mem hmem (by decide))

/-- A field is found under each of its names in any letter case. -/
theorem ofName?_eq (h : f.IsSpelled name) : ofName? name.toList = some f := by
  have hword := h.isWord
  obtain ⟨n, hn, hname⟩ := h
  rw [ofName?, trim_isWord hword, String.ofList_toList]
  have hsome : (all.find? fun g => g.names.any fun m => sameLetters m name).isSome = true := by
    rw [List.find?_isSome]
    exact ⟨f, by cases f <;> decide, List.any_eq_true.2 ⟨n, hn, hname⟩⟩
  obtain ⟨g, hg⟩ := Option.isSome_iff_exists.1 hsome
  have hnamed := List.find?_some hg
  obtain ⟨m, hm, hmname⟩ := List.any_eq_true.1 hnamed
  rw [hg, eq_of_lower_eq hm hn ((beq_iff_eq.1 hmname).trans (beq_iff_eq.1 hname).symm)]

end IsSpelled

end Field

/-! ## Written attributes -/

/-- The kind of fields that an attribute belongs to. -/
def Attribute.kind : Attribute → FieldKind
  | .text _ => .text
  | .integer _ => .integer
  | .moment _ => .moment

section

variable {e : Entry} {f : Field} {a : Attribute}

/-- What an entry says under a field is of the field's kind. -/
theorem Entry.kind_of_attribute? (h : e.attribute? f = some a) : a.kind = f.kind := by
  cases f with
  | id => cases h
  | timestamp | level | message | statusCode =>
    cases h
    rfl
  | sourceIp | request | threadId | source | user | size =>
    obtain ⟨x, -, rfl⟩ := Option.map_eq_some_iff.1 h
    rfl

/-- The integers of an entry have 64 bits and a sign, except for sizes, which have none. -/
theorem Entry.integer_mem_of_attribute? {n : Int} (h : e.attribute? f = some (.integer n))
    (hsize : f = .size → n < 2 ^ 63) : -2 ^ 63 ≤ n ∧ n < 2 ^ 63 := by
  cases f with
  | statusCode =>
    cases h
    have hlow := e.statusCode.le_toInt
    have hhigh := e.statusCode.toInt_lt
    omega
  | threadId =>
    obtain ⟨m, -, hm⟩ := Option.map_eq_some_iff.1 h
    cases hm
    exact ⟨m.le_toInt, m.toInt_lt⟩
  | size =>
    obtain ⟨m, -, hm⟩ := Option.map_eq_some_iff.1 h
    cases hm
    exact ⟨by omega, hsize rfl⟩
  | timestamp | level | message | id => cases h
  | sourceIp | request | source | user =>
    obtain ⟨x, -, hx⟩ := Option.map_eq_some_iff.1 h
    cases hx

theorem Attribute.exists_denotes (a : Attribute)
    (h : ∀ n, a = .integer n → -2 ^ 63 ≤ n ∧ n < 2 ^ 63) :
    ∃ x : CriterionValue, x.attribute = a.shown ∧ Criterion.Denotes a.kind a.written.toList x := by
  cases a with
  | text s =>
    refine ⟨.text (String.ofList s.toList), ?_, .text s.toList⟩
    rw [String.ofList_toList]
    rfl
  | integer n =>
    obtain ⟨hlow, hhigh⟩ := h n rfl
    have hn : (Int64.ofInt n).toInt = n := Int64.toInt_ofInt_of_le hlow hhigh
    refine ⟨.integer (Int64.ofInt n), congrArg Attribute.integer hn, .integer ?_⟩
    have hread := int64?_toString (Int64.ofInt n)
    rw [hn] at hread
    exact hread
  | moment t => exact ⟨.moment t.shown, rfl, .moment t.ofText?_exact⟩

namespace Attribute.IsWritable

/-- A writable attribute has no outer blanks. -/
theorem trim_eq (h : a.IsWritable) : trim a.written.toList = a.written.toList := by
  have htrim := trim_unwords fun w (hw : w ∈ words a.written.toList) => isWord_of_mem_words hw
  rw [h.spaces] at htrim
  exact htrim

/-- The words of a writable attribute join no criteria. -/
theorem isClauseEnd (h : a.IsWritable) : IsClauseEnd a.written.toList := by
  have hplain : ∀ w ∈ words a.written.toList, IsPlain w := fun w hw => by
    obtain ⟨hand, hor⟩ := h.connectors w hw
    refine ⟨isWord_of_mem_words hw, ?_⟩
    rw [isConnector, decide_eq_false hand, decide_eq_false hor]
    rfl
  rw [← h.spaces]
  cases hwords : words a.written.toList with
  | nil => exact isClauseEnd_of_noBlank noBlank_nil
  | cons w ws =>
    rw [hwords] at hplain
    obtain ⟨hw, hws⟩ := List.forall_mem_cons.1 hplain
    exact ⟨w, ws, rfl, hw.1.2, hws⟩

end Attribute.IsWritable

end

/-! ## The filter of an attribute -/

namespace CompiledFilter

/-- A clause that is read as a criterion is a filter of this criterion alone. -/
theorem ofText_of_isClause {s : String} {c : Criterion} (connectives : Connectives)
    (hs : IsClause s.toList) (hc : Criterion.ofText s.toList = .ok c) :
    ofText connectives s = .ok { groups := [[c]] } := by
  have hsections := clauseSections_of_isClause hs
  cases connectives with
  | legacy =>
    have hreads : List.Forall₂ ReadsAs (clauses s) [c] := by
      rw [← flatten_clauseSections, hsections]
      exact .cons hc .nil
    rw [ofText_legacy_of_readsAs hreads]
    rfl
  | orOfAnds =>
    refine ofText_eq_ok_of_readsAs ?_
    rw [criterionGroups_orOfAnds, clauseGroups_eq_filter, hsections]
    exact .cons (.cons hc .nil) .nil

theorem admits_singleton (c : Criterion) (e : Entry) :
    admits { groups := [[c]] } e = c.holds e := by
  simp [admits, isAlways]

end CompiledFilter

theorem Criterion.ofText_written {f : Field} {a : Attribute} {name : String}
    {x : CriterionValue} (hname : f.IsSpelled name) (ha : a.IsWritable)
    (hx : Denotes f.kind a.written.toList x) :
    Criterion.ofText (name ++ "=" ++ a.written).toList = .ok { field := f, value := x } := by
  have htrim : trim name.toList = name.toList := trim_isWord hname.isWord
  refine ofText_eq_ok_iff.2
    ⟨name.toList, a.written.toList, ?_, hname.equals_notMem, ha.equals, ?_, ?_, ?_⟩
  · simp
  · rw [htrim]
    exact hname.isWord.1
  · rw [htrim]
    exact hname.ofName?_eq
  · rw [ha.trim_eq]
    exact hx

/-- A name of a field, an equals sign and a written attribute are a clause. -/
theorem Field.IsSpelled.isClause {f : Field} {a : Attribute} {name : String}
    (hname : f.IsSpelled name) (ha : a.IsWritable) :
    IsClause (name ++ "=" ++ a.written).toList := by
  have hword : IsWord (name ++ "=").toList := by
    rw [String.toList_append]
    exact hname.isWord.append_noBlank (by decide)
  rw [String.toList_append]
  exact ha.isClauseEnd.isClause hword (by simp)

/-- **An attribute selects the records that share it.** Under each name of the field, in any letter
case and under both readings of the connectors, what a record says under the field is a filter. It
admits the records that say there what is written, and that is what this record says itself, unless
it is a moment that clocks hide. Whatever the value, a criterion holds for no record that says
nothing under its field. -/
theorem Record.attribute_selects :
    (∀ (r : Record) (f : Field) (a : Attribute) (name : String) (connectives : Connectives),
      r.attribute? f = some a → f.IsSpelled name → a.IsWritable →
      (f = .size → ∀ n, a = .integer n → n < 2 ^ 63) →
        ∃ filter, CompiledFilter.ofText connectives (name ++ "=" ++ a.written) = .ok filter ∧
          (∀ s : Record, filter.admits s.toEntry = true ↔ s.attribute? f = some a.shown) ∧
          (filter.admits r.toEntry = true ↔ a.shown = a) ∧
          (a.shown = a ↔ ∀ t, a = .moment t → t.time.IsShown)) ∧
      ∀ (r : Record) (c : Criterion), r.attribute? c.field = none → c.holds r.toEntry = false := by
  constructor
  · intro r f a name connectives hattribute hname ha hsize
    have hrange : ∀ n, a = .integer n → -2 ^ 63 ≤ n ∧ n < 2 ^ 63 := by
      rintro n rfl
      exact Entry.integer_mem_of_attribute? hattribute fun hf => hsize hf n rfl
    obtain ⟨x, hxa, hx⟩ := a.exists_denotes hrange
    rw [Entry.kind_of_attribute? hattribute] at hx
    have hadmits : ∀ s : Record,
        CompiledFilter.admits { groups := [[{ field := f, value := x }]] } s.toEntry = true ↔
          s.attribute? f = some a.shown := fun s => by
      rw [CompiledFilter.admits_singleton, Criterion.holds_iff, hxa]
    have hown :
        CompiledFilter.admits { groups := [[{ field := f, value := x }]] } r.toEntry = true ↔
          a.shown = a := by
      rw [hadmits r, hattribute, Option.some.injEq, eq_comm]
    exact ⟨_, CompiledFilter.ofText_of_isClause connectives (hname.isClause ha)
      (Criterion.ofText_written hname ha hx), hadmits, hown, Attribute.shown_eq_self_iff⟩
  · intro r c hnone
    rw [Bool.eq_false_iff, ne_eq, Criterion.holds_iff, hnone]
    simp

/-- An address of several words under its other name, the largest size that a criterion can ask for,
and no user, not even the empty one. -/
theorem Record.attribute_selects_address :
    let r : Record :=
      { timestamp :=
          { date := { year := 2024, month := 1, day := 1, year_mem := by decide,
                      month_mem := by decide, day_mem := by decide }
            time := .midnight }
        level := "INFO"
        sourceIp := some "10.0.0.1 or a proxy"
        size := some 9223372036854775807
        id := ⟨7⟩ }
    (∃ filter, CompiledFilter.ofText .orOfAnds "sourceIP=10.0.0.1 or a proxy" = .ok filter ∧
        filter.admits r.toEntry = true ∧
        ∀ s : Record, filter.admits s.toEntry = true ↔
          s.attribute? .sourceIp = some (.text "10.0.0.1 or a proxy")) ∧
      (∃ filter, CompiledFilter.ofText .legacy "SIZE=9223372036854775807" = .ok filter ∧
        filter.admits r.toEntry = true ∧
        ∀ s : Record, filter.admits s.toEntry = true ↔
          s.attribute? .size = some (.integer 9223372036854775807)) ∧
      Criterion.holds { field := .user, value := .text "" } r.toEntry = false := by
  intro r
  refine ⟨?_, ?_, attribute_selects.2 r { field := .user, value := .text "" } rfl⟩
  · obtain ⟨filter, hfilter, hadmits, hown, -⟩ :=
      attribute_selects.1 r .sourceIp (.text "10.0.0.1 or a proxy") "sourceIP" .orOfAnds rfl
        ⟨"SourceIp", by decide, by decide +kernel⟩
        ⟨by decide +kernel, by decide +kernel, by decide +kernel⟩ nofun
    exact ⟨filter, hfilter, hown.2 rfl, hadmits⟩
  · have hsmall : ∀ n, Attribute.integer 9223372036854775807 = .integer n → n < 2 ^ 63 := by
      intro n hn
      cases hn
      decide
    obtain ⟨filter, hfilter, hadmits, hown, -⟩ :=
      attribute_selects.1 r .size (.integer 9223372036854775807) "SIZE" .legacy rfl
        ⟨"Size", by decide, by decide +kernel⟩
        ⟨by decide +kernel, by decide +kernel, by decide +kernel⟩ fun _ => hsmall
    exact ⟨filter, hfilter, hown.2 rfl, hadmits⟩

/-- A moment in a leap second that clocks hide does not select its own record. -/
theorem Record.attribute_hiddenLeap :
    let r : Record := { timestamp := .hiddenLeap, level := "Info", id := ⟨1⟩ }
    let a : Attribute := .moment .hiddenLeap
    r.attribute? .timestamp = some a ∧ a.IsWritable ∧ a.written = "2023-08-15 10:00:01.500" ∧
      ∃ filter, CompiledFilter.ofText .legacy "Timestamp=2023-08-15 10:00:01.500" = .ok filter ∧
        filter.admits r.toEntry = false := by
  intro r a
  refine ⟨rfl, ⟨by decide +kernel, by decide +kernel, by decide +kernel⟩, by decide +kernel, ?_⟩
  exact ⟨{ groups := [[{ field := .timestamp, value := .moment Timestamp.hiddenLeap.shown }]] },
    by decide +kernel, by decide +kernel⟩

end LogDigest
