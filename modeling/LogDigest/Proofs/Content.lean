import LogDigest.Proofs.Chronology
import LogDigest.Proofs.Utf8
import LogDigest.Record.Basic
import Mathlib.Data.List.Basic
import Mathlib.Data.List.Induction
import Std.Data.HashSet.Lemmas

/-!
# Contents of records

Two records have the same content when they agree in all but the identity, and the records without
duplicates are those that say something no earlier record says (`Record.dedup_keeps_firsts`).

**Hashing** (`Tells`). What a value feeds a hasher with tells it from every other value, whatever is
fed next: numbers stand for themselves, the bytes of a text determine it, and an absent value is
marked as one. So contents are equal exactly when they feed the same, and a set may hash them.

**The set of contents** (`Record.Holds`). The set that was seen holds the contents of the records so
far, and each record's flag says whether it is new among them. The flags are then zipped with the
records they were made of (`Record.dedup_eq`).

**One more record** (`Record.dedup_concat`). One more record behind the others stays unless one of
them says the same. All laws follow from this by induction from the end of the list.
-/

namespace LogDigest

open Text

/-! ## What values feed -/

namespace HashWord

/-- What a value feeds tells it from every other one, whatever is fed behind it. -/
def Tells {α : Type} (feed : α → List HashWord) : Prop :=
  ∀ a b xs ys, feed a ++ xs = feed b ++ ys → a = b ∧ xs = ys

theorem tells_number {α : Type} {toInt : α → Int} (h : Function.Injective toInt) :
    Tells fun a => [number (toInt a)] := by
  intro a b xs ys heq
  rw [List.singleton_append, List.singleton_append, List.cons.injEq, number.injEq] at heq
  exact ⟨h heq.1, heq.2⟩

theorem tells_ofTimestamp : Tells ofTimestamp := by
  intro t u xs ys heq
  obtain ⟨hunits, hrest⟩ := List.append_inj heq rfl
  have hnumber : Function.Injective number := fun m n h => number.inj h
  exact ⟨Timestamp.units_inj.1 (List.map_injective_iff.2 hnumber hunits), hrest⟩

theorem tells_ofText : Tells ofText := by
  intro s t xs ys heq
  obtain ⟨htext, hrest⟩ := List.append_inj heq rfl
  rw [ofText, ofText, List.cons.injEq, bytes.injEq] at htext
  have hchars : some s.toList = some t.toList := by
    rw [← Utf8.strict?_encode s.toList, htext.1, Utf8.strict?_encode]
  exact ⟨String.toList_inj.1 (Option.some.inj hchars), hrest⟩

theorem tells_ofOption {α : Type} {feed : α → List HashWord} (h : Tells feed) :
    Tells (ofOption feed) := by
  intro a b xs ys heq
  cases a with
  | none =>
    cases b with
    | none => exact ⟨rfl, List.tail_eq_of_cons_eq heq⟩
    | some b => exact absurd (number.inj (List.head_eq_of_cons_eq heq)) (by decide)
  | some a =>
    cases b with
    | none => exact absurd (number.inj (List.head_eq_of_cons_eq heq)) (by decide)
    | some b =>
      obtain ⟨rfl, hrest⟩ := h a b xs ys (List.tail_eq_of_cons_eq heq)
      exact ⟨rfl, hrest⟩

/-- Two values feed one behind the other. -/
theorem Tells.pair {α β : Type} {feed : α → List HashWord} {feed' : β → List HashWord}
    (h : Tells feed) (h' : Tells feed') : Tells fun p : α × β => feed p.1 ++ feed' p.2 := by
  rintro ⟨a, a'⟩ ⟨b, b'⟩ xs ys heq
  rw [List.append_assoc, List.append_assoc] at heq
  obtain ⟨rfl, hbehind⟩ := h a b _ _ heq
  obtain ⟨rfl, hrest⟩ := h' a' b' _ _ hbehind
  exact ⟨rfl, hrest⟩

end HashWord

/-! ## Contents -/

namespace ContentKey

variable {k l : ContentKey}

theorem beq_iff : (k == l) = true ↔ k.fields = l.fields :=
  beq_iff_eq (a := k.fields) (b := l.fields)

instance : EquivBEq ContentKey where
  rfl := beq_iff.2 rfl
  symm h := beq_iff.2 (beq_iff.1 h).symm
  trans h h' := beq_iff.2 ((beq_iff.1 h).trans (beq_iff.1 h'))

/-- Contents are equal if they feed a hasher with the same. -/
theorem fed_inj : k.fed = l.fed ↔ k.fields = l.fields := by
  constructor
  · intro h
    have htext := HashWord.tells_ofText
    have htexts := HashWord.tells_ofOption htext
    have hstatus : HashWord.Tells fun n : Int32 => [.number n.toInt] :=
      HashWord.tells_number fun m n => Int32.toInt_inj.1
    have hthread : HashWord.Tells fun n : Int64 => [.number n.toInt] :=
      HashWord.tells_number fun m n => Int64.toInt_inj.1
    have hsize : HashWord.Tells fun n : UInt64 => [.number n.toNat] :=
      HashWord.tells_number fun m n hmn => UInt64.toNat_inj.1 (Int.ofNat_inj.1 hmn)
    have hfields := HashWord.tells_ofTimestamp.pair <| htext.pair <| htext.pair <| htexts.pair <|
      htexts.pair <| hstatus.pair <| (HashWord.tells_ofOption hthread).pair <| htexts.pair <|
      htexts.pair <| HashWord.tells_ofOption hsize
    refine (hfields k.fields l.fields [] [] ?_).1
    simp only [fed, List.append_assoc] at h
    rw [List.append_nil, List.append_nil]
    exact h
  · intro h
    rw [fed, fed, h]

instance : LawfulHashable ContentKey where
  hash_eq k l h := by
    have hfed : k.fed = l.fed := fed_inj.2 (beq_iff.1 h)
    show hash k.fed = hash l.fed
    rw [hfed]

end ContentKey

namespace Record

/-! ## Equal records -/

/-- Records have the same content exactly if they agree in all but the identity. -/
theorem sameContent_iff {r s : Record} : r.sameContent s = true ↔ r.toEntry = s.toEntry := by
  rw [sameContent, ContentKey.beq_iff]
  obtain ⟨⟨_, _, _, _, _, _, _, _, _, _⟩, _⟩ := r
  obtain ⟨⟨_, _, _, _, _, _, _, _, _, _⟩, _⟩ := s
  simp only [ContentKey.fields, Prod.mk.injEq, Entry.mk.injEq]

theorem sameContent_refl (r : Record) : r.sameContent r = true := sameContent_iff.2 rfl

theorem equivalence_sameContent : Equivalence fun r s : Record => r.sameContent s = true where
  refl := sameContent_refl
  symm h := sameContent_iff.2 (sameContent_iff.1 h).symm
  trans h h' := sameContent_iff.2 ((sameContent_iff.1 h).trans (sameContent_iff.1 h'))

theorem beq_iff_sameContent {r s : Record} :
    (r == s) = true ↔ r.id = s.id ∧ r.sameContent s = true := by
  rw [beq_iff_eq, sameContent_iff]
  obtain ⟨e, i⟩ := r
  obtain ⟨f, j⟩ := s
  rw [mk.injEq, and_comm]

theorem sameContent_iff_fed {r s : Record} :
    r.sameContent s = true ↔ (ContentKey.mk r).fed = (ContentKey.mk s).fed := by
  rw [sameContent, ContentKey.beq_iff, ContentKey.fed_inj]

/-- Records are the same exactly if a hasher is fed the same with them. -/
theorem beq_iff_fed {r s : Record} : (r == s) = true ↔ r.fed = s.fed := by
  have hid : (HashWord.number r.id.value.toNat = .number s.id.value.toNat) ↔ r.id = s.id := by
    rw [HashWord.number.injEq, Int.ofNat_inj, UInt64.toNat_inj, ← RecordId.mk.injEq]
  rw [beq_iff_sameContent, sameContent_iff_fed, fed, fed, List.cons.injEq, hid]

/-! ## The set of contents -/

/-- Whether no record before this one says the same. -/
def isNew (before : List Record) (r : Record) : Bool := !before.any (·.sameContent r)

/-- The set holds the contents of these records and no others. -/
def Holds (seen : Std.HashSet ContentKey) (before : List Record) : Prop :=
  ∀ r, seen.contains ⟨r⟩ = before.any (·.sameContent r)

theorem holds_nil : Holds ∅ [] := fun _ => Std.HashSet.contains_empty

theorem Holds.insert {seen : Std.HashSet ContentKey} {before : List Record} (h : Holds seen before)
    (r : Record) : Holds (seen.insert ⟨r⟩) (before ++ [r]) := by
  intro s
  rw [Std.HashSet.contains_insert, h, List.any_append, List.any_cons, List.any_nil, Bool.or_false,
    Bool.or_comm, sameContent]

theorem newFlags_cons (seen : Std.HashSet ContentKey) (r : Record) (records : List Record) :
    newFlags seen (r :: records) =
      (!seen.contains ⟨r⟩) :: newFlags (seen.insert ⟨r⟩) records := by
  rw [← Std.HashSet.containsThenInsert_fst, ← Std.HashSet.containsThenInsert_snd]
  rfl

/-- Every record's flag says whether it is new. -/
theorem Holds.newFlags_eq {seen : Std.HashSet ContentKey} {before : List Record}
    (h : Holds seen before) (records : List Record) :
    newFlags seen records =
      records.zipIdx.map fun p => isNew (before ++ records.take p.2) p.1 := by
  induction records generalizing seen before with
  | nil => rfl
  | cons r records ih =>
    rw [newFlags_cons, ih (h.insert r), h, List.zipIdx_cons', List.map_cons, List.map_map]
    congr 1
    · rw [List.take_zero, List.append_nil, isNew]
    · refine List.map_congr_left fun p _ => ?_
      rw [Function.comp_apply, Prod.map_fst, Prod.map_snd, id_eq, List.take_succ_cons,
        List.append_assoc, List.singleton_append]

/-- The flags are zipped with the records they were made of. -/
theorem dedup_eq (records : List Record) :
    dedup records = (records.zipIdx.filter fun p => isNew (records.take p.2) p.1).map Prod.fst := by
  have hflags : newFlags ∅ records = records.zipIdx.map fun p => isNew (records.take p.2) p.1 :=
    holds_nil.newFlags_eq records
  have hzip : records.zip (newFlags ∅ records) =
      records.zipIdx.map fun p => (p.1, isNew (records.take p.2) p.1) :=
    calc records.zip (newFlags ∅ records)
      _ = (records.zipIdx.map Prod.fst).zip
            (records.zipIdx.map fun p => isNew (records.take p.2) p.1) := by
          rw [hflags, List.zipIdx_map_fst]
      _ = _ := List.zip_map'
  rw [dedup, hzip, List.filterMap_map, ← List.filterMap_eq_filter, List.map_filterMap]
  refine List.filterMap_congr fun p _ => ?_
  rw [Function.comp_apply, Option.guard]
  cases isNew (records.take p.2) p.1 <;> rfl

/-! ## One more record -/

theorem isNew_eq_true_iff {before : List Record} {r : Record} :
    isNew before r = true ↔ ∀ s ∈ before, s.sameContent r = false := by
  rw [isNew, Bool.not_eq_true', List.any_eq_false]
  simp only [Bool.not_eq_true]

theorem isNew_eq_false_iff {before : List Record} {r : Record} :
    isNew before r = false ↔ ∃ s ∈ before, s.sameContent r = true := by
  rw [isNew, Bool.not_eq_false', List.any_eq_true]

theorem dedup_concat (records : List Record) (r : Record) :
    dedup (records ++ [r]) = dedup records ++ if isNew records r then [r] else [] := by
  have hbefore : (records.zipIdx.filter fun p => isNew ((records ++ [r]).take p.2) p.1) =
      records.zipIdx.filter fun p => isNew (records.take p.2) p.1 := by
    refine List.filter_congr fun p hp => ?_
    rw [List.take_append_of_le_length (Nat.le_of_lt (List.snd_lt_of_mem_zipIdx hp))]
  have hlast : (records ++ [r]).take (0 + records.length) = records := by
    rw [Nat.zero_add, List.take_left]
  rw [dedup_eq, dedup_eq, List.zipIdx_append, List.filter_append, hbefore, List.map_append,
    List.zipIdx_singleton, List.filter_cons, List.filter_nil, hlast]
  cases isNew records r <;> rfl

theorem dedup_sublist (records : List Record) : (dedup records).Sublist records := by
  have hall : (records.zipIdx.map Prod.fst) = records := List.zipIdx_map_fst 0 records
  rw [dedup_eq]
  conv_rhs => rw [← hall]
  exact List.filter_sublist.map Prod.fst

/-- Nothing that was said gets lost. -/
theorem exists_mem_dedup {records : List Record} {r : Record} (h : r ∈ records) :
    ∃ s ∈ dedup records, s.sameContent r = true := by
  induction records using List.reverseRecOn generalizing r with
  | nil => exact absurd h List.not_mem_nil
  | append_singleton records last ih =>
    have hbefore : ∀ t ∈ records, ∃ s ∈ dedup (records ++ [last]), s.sameContent t = true := by
      intro t ht
      obtain ⟨s, hs, hsame⟩ := ih ht
      rw [dedup_concat]
      exact ⟨s, List.mem_append_left _ hs, hsame⟩
    rcases List.mem_append.1 h with hr | hr
    · exact hbefore r hr
    · rw [List.mem_singleton] at hr
      subst hr
      cases hnew : isNew records r with
      | true =>
        rw [dedup_concat, hnew, if_pos rfl]
        exact ⟨r, List.mem_append_right _ (List.mem_singleton_self r), sameContent_refl r⟩
      | false =>
        obtain ⟨t, ht, htr⟩ := isNew_eq_false_iff.1 hnew
        obtain ⟨s, hs, hst⟩ := hbefore t ht
        exact ⟨s, hs, equivalence_sameContent.trans hst htr⟩

/-- A record is as new beside records as beside them without duplicates. -/
theorem isNew_dedup_append (xs ys : List Record) (r : Record) :
    isNew (dedup xs ++ ys) r = isNew (xs ++ ys) r := by
  have hxs : (dedup xs).any (·.sameContent r) = xs.any (·.sameContent r) := by
    rw [Bool.eq_iff_iff, List.any_eq_true, List.any_eq_true]
    constructor
    · rintro ⟨s, hs, hsr⟩
      exact ⟨s, (dedup_sublist xs).mem hs, hsr⟩
    · rintro ⟨t, ht, htr⟩
      obtain ⟨s, hs, hst⟩ := exists_mem_dedup ht
      exact ⟨s, hs, equivalence_sameContent.trans hst htr⟩
  rw [isNew, isNew, List.any_append, List.any_append, hxs]

theorem pairwise_dedup (records : List Record) :
    (dedup records).Pairwise fun r s => r.sameContent s = false := by
  induction records using List.reverseRecOn with
  | nil => exact List.Pairwise.nil
  | append_singleton records r ih =>
    rw [dedup_concat]
    cases hnew : isNew records r with
    | false => rwa [if_neg Bool.false_ne_true, List.append_nil]
    | true =>
      rw [if_pos rfl, List.pairwise_append]
      refine ⟨ih, List.pairwise_singleton _ r, fun s hs t ht => ?_⟩
      rw [List.mem_singleton] at ht
      subst ht
      exact isNew_eq_true_iff.1 hnew s ((dedup_sublist records).mem hs)

/-- Records that all say something else stay. -/
theorem dedup_eq_self {records : List Record}
    (h : records.Pairwise fun r s => r.sameContent s = false) : dedup records = records := by
  induction records using List.reverseRecOn with
  | nil => rfl
  | append_singleton records r ih =>
    obtain ⟨hbefore, -, hlast⟩ := List.pairwise_append.1 h
    have hnew : isNew records r = true :=
      isNew_eq_true_iff.2 fun s hs => hlast s hs r (List.mem_singleton_self r)
    rw [dedup_concat, ih hbefore, hnew, if_pos rfl]

/-- Duplicates among the first records may be left out first. -/
theorem dedup_append (xs ys : List Record) : dedup (xs ++ ys) = dedup (dedup xs ++ ys) := by
  induction ys using List.reverseRecOn with
  | nil => rw [List.append_nil, List.append_nil, dedup_eq_self (pairwise_dedup xs)]
  | append_singleton ys y ih =>
    rw [← List.append_assoc, ← List.append_assoc, dedup_concat, dedup_concat, ih,
      isNew_dedup_append]

/-! ## Duplicates -/

/-- What is kept of records when duplicates are left out. -/
structure KeepsFirsts (kept records : List Record) : Prop where
  /-- The records that no earlier one says the same as, as they are and in their order. -/
  firsts : kept = (records.zipIdx.filter fun p => isNew (records.take p.2) p.1).map Prod.fst
  sublist : kept.Sublist records
  different : kept.Pairwise fun r s => r.sameContent s = false
  nothingLost : ∀ r ∈ records, ∃ s ∈ kept, s.sameContent r = true

/-- **Equal records and duplicates.** Records are equal exactly if their identities are and their
contents are the same, and contents are the same exactly if all fields but the identity are. Under
both equalities, equal is what feeds a hasher with the same. Without duplicates, a list of records
has those that no earlier one says the same as. So nothing that was said gets lost, no two records
left say the same, and leaving out duplicates a second time, or among the first records beforehand,
changes nothing. -/
theorem dedup_keeps_firsts :
    (∀ r s : Record,
      ((r == s) = true ↔ r.id = s.id ∧ r.sameContent s = true) ∧
      (r.sameContent s = true ↔ r.toEntry = s.toEntry) ∧
      ((r == s) = true ↔ r.fed = s.fed) ∧
      (r.sameContent s = true ↔ (ContentKey.mk r).fed = (ContentKey.mk s).fed)) ∧
    (Equivalence fun r s : Record => r.sameContent s = true) ∧
    (∀ records, KeepsFirsts (dedup records) records) ∧
    (∀ records, dedup (dedup records) = dedup records) ∧
    ∀ xs ys, dedup (xs ++ ys) = dedup (dedup xs ++ ys) := by
  refine ⟨fun r s => ?_, equivalence_sameContent, fun records => ?_, fun records => ?_,
    dedup_append⟩
  · exact ⟨beq_iff_sameContent, sameContent_iff, beq_iff_fed, sameContent_iff_fed⟩
  · exact ⟨dedup_eq records, dedup_sublist records, pairwise_dedup records,
      fun r => exists_mem_dedup⟩
  · exact dedup_eq_self (pairwise_dedup records)

end Record

end LogDigest
