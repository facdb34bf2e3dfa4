import LogDigest.Proofs.Calendar
import LogDigest.Proofs.Json
import LogDigest.Record.Document

/-!
# Records come back from their documents

The document of a record is read as what the record shows, whatever its texts, its time and its
numbers, and so is each shorter document that leaves out members with their defaults, in any order
of the members and in either layout. That is the record itself, unless its timestamp lies in a leap
second that clocks hide (`Record.documents_lossless`).

**Values** (`Takes`). A reader of values takes a written value for what it stands for, whatever
blanks stand before it and whatever ends numbers stands behind it. There is one rule for each kind
of value.

**Members** (`Spells`). The two layouts differ in blanks only, so both are texts that spell the
members of the record, and reading is followed along the spelling. After each member the document
holds what the record says of the members so far, and its defaults otherwise (`Document.copy`).

**Defaults** (`Abridges`). What is left out has its default, so in the end the document says what
the record says.
-/

namespace LogDigest

open Json

/-! ## Values -/

namespace Json

variable {α β : Type} {read : List Char → DocumentScan α}

/-- The reader takes a value for `a`, with any blanks before it and any end of numbers behind it. -/
def Takes (read : List Char → DocumentScan α) (v : Json) (a : α) : Prop :=
  ∀ ⦃b s : List Char⦄, Blanks b → NumberEnds s → read (b ++ (compact v ++ s)) = .ok (a, s)

theorem takes_map {v : Json} {a : α} (h : Takes read v a) (f : α → β) :
    Takes (fun s => (read s).map fun (a, rest) => (f a, rest)) v (f a) := by
  intro b s hb hs
  simp only [h hb hs, Except.map]

theorem takes_string (expected : String) (t : String) :
    Takes (expectString expected) (.string t) t := by
  intro b s hb hs
  rw [expectString, skipBlanks_append hb, compact, quote_eq, List.cons_append,
    skipBlanks_cons (by decide)]
  simp only [readString_inside, lift, Except.mapError]

theorem takes_integer (expected : String) (low high : Int) {n : Int} (hn : low ≤ n ∧ n ≤ high)
    (hlow : -9223372036854775808 ≤ low) (hhigh : high ≤ 18446744073709551615) :
    Takes (expectInteger expected low high) (.int n) n := by
  intro b s hb hs
  obtain ⟨c, t, htext, hc⟩ := text_integer_eq_cons n
  have hblank := (isBlank_of_opensInteger hc).1
  have hread := readNumber_integer (n := n) ⟨by omega, by omega⟩ hs
  rw [htext, List.cons_append] at hread
  rw [expectInteger, skipBlanks_append hb, Json.int, compact, htext, List.cons_append,
    skipBlanks_cons hblank]
  simp only [hread, hc, hn, and_self, if_true]

theorem takes_timestamp (t : Timestamp) :
    Takes expectTimestamp (.string t.interchange) t.shown := by
  intro b s hb hs
  simp only [expectTimestamp, takes_string _ _ hb hs, t.ofInterchange_interchange]

theorem takes_text (t : String) : Takes expectText (.string t) t :=
  takes_string "a string" t

theorem takes_uint64 (n : UInt64) : Takes expectUInt64 (.int n.toNat) n := by
  have hn := n.toNat_lt
  have hmap := takes_map
    (takes_integer "u64" 0 18446744073709551615 (n := n.toNat)
      ⟨by omega, by omega⟩ (by decide) (by decide))
    fun m => UInt64.ofNat m.toNat
  rw [Int.toNat_natCast, UInt64.ofNat_toNat] at hmap
  exact hmap

theorem takes_int64 (n : Int64) : Takes expectInt64 (.int n.toInt) n := by
  have hlow := n.le_toInt
  have hhigh := n.toInt_lt
  have hmap := takes_map
    (takes_integer "i64" (-9223372036854775808) 9223372036854775807 (n := n.toInt)
      ⟨by omega, by omega⟩ (by decide) (by decide))
    Int64.ofInt
  rw [Int64.ofInt_toInt] at hmap
  exact hmap

theorem takes_int32 (n : Int32) : Takes expectInt32 (.int n.toInt) n := by
  have hlow := n.le_toInt
  have hhigh := n.toInt_lt
  have hmap := takes_map
    (takes_integer "i32" (-2147483648) 2147483647 (n := n.toInt)
      ⟨by omega, by omega⟩ (by decide) (by decide))
    Int32.ofInt
  rw [Int32.ofInt_toInt] at hmap
  exact hmap

/-! ### Optional values -/

/-- The text of the value shows at its first character that it is not null. -/
def Opens (v : Json) : Prop := ∃ c t, compact v = c :: t ∧ isBlank c = false ∧ c ≠ 'n'

theorem opens_string (t : String) : Opens (.string t) :=
  ⟨'"', inside t, by rw [compact, quote_eq], by decide, by decide⟩

theorem opens_int (n : Int) : Opens (.int n) := by
  obtain ⟨c, t, htext, hc⟩ := text_integer_eq_cons n
  exact ⟨c, t, by rw [Json.int, compact, htext], isBlank_of_opensInteger hc⟩

theorem takes_optional {f : α → Json} (hread : ∀ a, Takes read (f a) a) (hopens : ∀ a, Opens (f a))
    (o : Option α) : Takes (expectOptional read) (.ofOption f o) o := by
  intro b s hb hs
  cases o with
  | none =>
    have hword : skipBlanks (compact .null ++ s) = 'n' :: 'u' :: 'l' :: 'l' :: s := by
      rw [compact]
      exact skipBlanks_cons (by decide) _
    rw [ofOption, expectOptional, skipBlanks_append hb, hword]
    simp [readWord, lift, Except.map, Except.mapError]
  | some a =>
    obtain ⟨c, t, htext, hblank, hc⟩ := hopens a
    have hvalue := hread a blanks_nil hs
    rw [List.nil_append, htext, List.cons_append] at hvalue
    rw [ofOption, expectOptional.eq_def, skipBlanks_append hb, htext, List.cons_append,
      skipBlanks_cons hblank]
    split
    · rename_i heq
      cases heq
      exact absurd rfl hc
    · rw [hvalue]
      rfl

end Json

/-! ## Members -/

/-- The document that says all that the record shows. -/
def Record.document (r : Record) : Document where
  id := some r.id.value
  timestamp := some r.timestamp.shown
  level := some r.level
  message := r.message
  sourceIp := r.sourceIp
  request := r.request
  statusCode := r.statusCode
  threadId := r.threadId
  source := r.source
  user := r.user
  size := r.size

namespace Document

/-- The document with these members taken over from another one. -/
def copy (d e : Document) (fields : List DocumentField) : Document where
  id := if .id ∈ fields then e.id else d.id
  timestamp := if .timestamp ∈ fields then e.timestamp else d.timestamp
  level := if .level ∈ fields then e.level else d.level
  message := if .message ∈ fields then e.message else d.message
  sourceIp := if .sourceIp ∈ fields then e.sourceIp else d.sourceIp
  request := if .request ∈ fields then e.request else d.request
  statusCode := if .statusCode ∈ fields then e.statusCode else d.statusCode
  threadId := if .threadId ∈ fields then e.threadId else d.threadId
  source := if .source ∈ fields then e.source else d.source
  user := if .user ∈ fields then e.user else d.user
  size := if .size ∈ fields then e.size else d.size

theorem copy_copy (d e : Document) (f : DocumentField) (fields : List DocumentField) :
    (d.copy e [f]).copy e fields = d.copy e (f :: fields) := by
  have hlater : ∀ {γ : Type} (g : DocumentField) (x y : γ),
      (if g ∈ fields then x else if g ∈ [f] then x else y) = if g ∈ f :: fields then x else y := by
    intro γ g x y
    by_cases hg : g ∈ fields <;> by_cases hgf : g = f <;> simp [hg, hgf]
  simp only [copy, hlater]

theorem readField_member (d : Document) (r : Record) (f : DocumentField) {b s : List Char}
    (hb : Blanks b) (hs : NumberEnds s) :
    d.readField f (b ++ (compact (r.member f) ++ s)) = .ok (d.copy r.document [f], s) := by
  have hstring : ∀ o : Option String, Takes (expectOptional expectText) (.ofOption .string o) o :=
    takes_optional takes_text opens_string
  cases f with
  | id =>
    exact takes_map (takes_optional takes_uint64 (fun n => opens_int n.toNat) (some r.id.value))
      (fun v => { d with id := v }) hb hs
  | timestamp =>
    exact takes_map (takes_timestamp r.timestamp) (fun v => { d with timestamp := some v }) hb hs
  | level => exact takes_map (takes_text r.level) (fun v => { d with level := some v }) hb hs
  | message => exact takes_map (takes_text r.message) (fun v => { d with message := v }) hb hs
  | sourceIp => exact takes_map (hstring r.sourceIp) (fun v => { d with sourceIp := v }) hb hs
  | request => exact takes_map (hstring r.request) (fun v => { d with request := v }) hb hs
  | statusCode =>
    exact takes_map (takes_int32 r.statusCode) (fun v => { d with statusCode := v }) hb hs
  | threadId =>
    exact takes_map (takes_optional takes_int64 (fun n => opens_int n.toInt) r.threadId)
      (fun v => { d with threadId := v }) hb hs
  | source => exact takes_map (hstring r.source) (fun v => { d with source := v }) hb hs
  | user => exact takes_map (hstring r.user) (fun v => { d with user := v }) hb hs
  | size =>
    exact takes_map (takes_optional takes_uint64 (fun n => opens_int n.toNat) r.size)
      (fun v => { d with size := v }) hb hs

/-- A member that there was not yet is read behind the opening quote of its name. -/
theorem readMember_member (d : Document) (r : Record) {f : DocumentField}
    {seen : List DocumentField} (hf : f ∉ seen) {b b' s : List Char} (hb : Blanks b)
    (hb' : Blanks b') (hs : NumberEnds s) :
    d.readMember seen (inside f.name ++ (b ++ ':' :: (b' ++ (compact (r.member f) ++ s)))) =
      .ok ((d.copy r.document [f], f :: seen), s) := by
  have hname : DocumentField.ofName? f.name = some f := by cases f <;> decide
  have hnew : seen.contains f = false := by simp [hf]
  simp only [readMember, readString_inside, readColon_append hb, lift, Except.mapError, hname, hnew,
    readField_member d r f hb' hs, Except.map, Bool.false_eq_true, if_false]

end Document

/-! ## Spellings -/

/-- The text spells these members of the record, with any blanks beside the marks. It opens behind
the first quote and ends with the last value. -/
inductive Record.Spells (r : Record) : List DocumentField → List Char → Prop
  | last (f : DocumentField) {b b' : List Char} (hb : Blanks b) (hb' : Blanks b') :
    Spells r [f] (inside f.name ++ (b ++ ':' :: (b' ++ compact (r.member f))))
  | more (f : DocumentField) {fields : List DocumentField} {b b' c c' s : List Char}
    (hb : Blanks b) (hb' : Blanks b') (hc : Blanks c) (hc' : Blanks c') (hs : Spells r fields s) :
    Spells r (f :: fields)
      (inside f.name ++ (b ++ ':' ::
        (b' ++ (compact (r.member f) ++ (c ++ ',' :: (c' ++ '"' :: s))))))

namespace Record.Spells

variable {r : Record} {fields : List DocumentField} {s : List Char}

theorem length_le (h : r.Spells fields s) : fields.length ≤ s.length := by
  induction h with
  | last f hb hb' =>
    simp only [List.length_append, List.length_cons, List.length_nil]
    omega
  | more f hb hb' hc hc' hs ih =>
    simp only [List.length_append, List.length_cons]
    omega

/-- The members of a spelling are read, and the closing brace behind them. -/
theorem readMembers (h : r.Spells fields s) (hnodup : fields.Nodup) {z : List Char} (hz : Blanks z)
    (t : List Char) {bound : Nat} (hbound : fields.length ≤ bound) (d : Document)
    {seen : List DocumentField} (hseen : ∀ f ∈ fields, f ∉ seen) :
    d.readMembers bound seen (s ++ (z ++ '\x7d' :: t)) = .ok (d.copy r.document fields, t) := by
  induction h generalizing bound d seen with
  | last f hb hb' =>
    obtain ⟨bound, rfl⟩ := Nat.exists_eq_add_of_le' hbound
    have hmember := d.readMember_member r (hseen f List.mem_cons_self) hb hb'
      (numberEnds_append hz (c := '\x7d') (by decide) t)
    simp only [List.append_assoc, List.cons_append]
    rw [List.length_singleton, Document.readMembers, hmember]
    simp only [skipBlanks_append hz, skipBlanks_cons (c := '\x7d') (by decide)]
  | @more f fields b b' c c' s hb hb' hc hc' hs ih =>
    obtain ⟨bound, rfl⟩ := Nat.exists_eq_add_of_le' hbound
    obtain ⟨hf, hnodup⟩ := List.nodup_cons.1 hnodup
    have hrest : ∀ g ∈ fields, g ∉ f :: seen := by
      intro g hg hmem
      rcases List.mem_cons.1 hmem with rfl | hold
      · exact hf hg
      · exact hseen g (List.mem_cons_of_mem f hg) hold
    have hmember := d.readMember_member r (hseen f List.mem_cons_self) hb hb'
      (numberEnds_append hc (c := ',') (by decide) (c' ++ '"' :: (s ++ (z ++ '\x7d' :: t))))
    have hmembers := ih hnodup (Nat.le_add_left fields.length bound) (d.copy r.document [f]) hrest
    simp only [List.append_assoc, List.cons_append]
    rw [List.length_cons, ← Nat.add_assoc, Document.readMembers, hmember]
    simp only [skipBlanks_append hc, skipBlanks_cons (c := ',') (by decide), skipBlanks_append hc',
      skipBlanks_cons (c := '"') (by decide)]
    rw [hmembers, Document.copy_copy]

end Record.Spells

/-! ## Defaults -/

/-- What a document without the member says of it; nothing if it has to be there. -/
def DocumentField.default? : DocumentField → Option Json
  | .id | .sourceIp | .request | .threadId | .source | .user | .size => some .null
  | .timestamp | .level => none
  | .message => some (.string "")
  | .statusCode => some (.int unknownStatus.toInt)

/-- Each member stands at most once among these, and those left out have their defaults. -/
structure Record.Abridges (r : Record) (fields : List DocumentField) : Prop where
  nodup : fields.Nodup
  omitted : ∀ f, f ∉ fields → f.default? = some (r.member f)

namespace Record.Abridges

variable {r : Record} {fields : List DocumentField}

/-- A value that is null by default and written as null is absent. -/
theorem none_eq_of_default {α : Type} {f : α → Json} (hf : ∀ a, f a ≠ .null) {o : Option α}
    (h : some Json.null = some (.ofOption f o)) : none = o := by
  cases o with
  | none => rfl
  | some a => exact absurd (Option.some.inj h).symm (hf a)

/-- A document says what the record says, as soon as what is left out has its default. -/
theorem copy_document (h : r.Abridges fields) :
    ({} : Document).copy r.document fields = r.document := by
  have hkept : ∀ {γ : Type} (f : DocumentField) {x y : γ},
      (f.default? = some (r.member f) → y = x) → (if f ∈ fields then x else y) = x := by
    intro γ f x y hdefault
    by_cases hf : f ∈ fields
    · rw [if_pos hf]
    · rw [if_neg hf, hdefault (h.omitted f hf)]
  have hstring : ∀ t, Json.string t ≠ .null := fun _ => Json.noConfusion
  have hint : ∀ n, Json.int n ≠ .null := fun _ => Json.noConfusion
  have hmessage : some (Json.string "") = some (.string r.message) → "" = r.message :=
    fun heq => Json.string.inj (Option.some.inj heq)
  have hstatus : some (Json.int unknownStatus.toInt) = some (.int r.statusCode.toInt) →
      unknownStatus = r.statusCode := by
    intro heq
    exact Int32.toInt_inj.1 (JsonNumber.integer.inj (Json.number.inj (Option.some.inj heq)))
  have hid : some Json.null ≠ some (.int r.id.value.toNat) :=
    fun heq => hint _ (Option.some.inj heq).symm
  simp only [Document.copy, Record.document, Document.mk.injEq]
  exact ⟨hkept .id fun heq => absurd heq hid, hkept .timestamp fun heq => (by cases heq),
    hkept .level fun heq => (by cases heq), hkept .message hmessage,
    hkept .sourceIp (none_eq_of_default hstring), hkept .request (none_eq_of_default hstring),
    hkept .statusCode hstatus, hkept .threadId (none_eq_of_default fun _ => hint _),
    hkept .source (none_eq_of_default hstring), hkept .user (none_eq_of_default hstring),
    hkept .size (none_eq_of_default fun _ => hint _)⟩

theorem ne_nil (h : r.Abridges fields) : fields ≠ [] := by
  rintro rfl
  cases h.omitted .timestamp (by decide)

end Record.Abridges

theorem Record.abridges_all (r : Record) : r.Abridges DocumentField.all where
  nodup := by decide
  omitted f hf := absurd (by cases f <;> decide) hf

/-! ## What members hold -/

/-- Null, a text, or an integer that fits 64 bits. -/
inductive Json.Flat : Json → Prop
  | null : Flat .null
  | string (t : String) : Flat (.string t)
  | int {n : Int} (hn : -9223372036854775808 ≤ n ∧ n ≤ 18446744073709551615) : Flat (.int n)

theorem Json.Flat.ofOption {α : Type} {f : α → Json} (h : ∀ a, (f a).Flat) (o : Option α) :
    (Json.ofOption f o).Flat := by
  cases o with
  | none => exact .null
  | some a => exact h a

/-- Both layouts write it alike. -/
theorem Json.Flat.prettyAt_eq {v : Json} (h : v.Flat) (level : Nat) :
    prettyAt level v = compact v := by
  cases h <;> rfl

theorem Record.flat_member (r : Record) (f : DocumentField) : (r.member f).Flat := by
  have hunsigned (n : UInt64) : (Json.int n.toNat).Flat := by
    have hlt := n.toNat_lt
    exact .int ⟨by omega, by omega⟩
  cases f with
  | id => exact hunsigned r.id.value
  | timestamp | level | message => exact .string _
  | statusCode =>
    have hlow := r.statusCode.le_toInt
    have hhigh := r.statusCode.toInt_lt
    exact .int ⟨by omega, by omega⟩
  | sourceIp | request | source | user => exact .ofOption .string _
  | threadId =>
    refine .ofOption (fun n => ?_) r.threadId
    have hlow := n.le_toInt
    have hhigh := n.toInt_lt
    exact .int ⟨by omega, by omega⟩
  | size => exact .ofOption hunsigned r.size

/-! ## Layouts -/

/-- The document of a record with these members only, in this order. -/
def Record.abridged (r : Record) (fields : List DocumentField) : Json :=
  .object (fields.map fun f => (f.name, r.member f))

namespace Record

theorem prettyAt_member (r : Record) (f : DocumentField) (level : Nat) :
    prettyAt level (r.member f) = compact (r.member f) :=
  (r.flat_member f).prettyAt_eq level

/-- Members that are laid out one by one, with the same blanks before each and before each value,
are spelled. -/
theorem spells_layout (r : Record) (lay : List (String × Json) → List Char) {lead gap : List Char}
    (hlead : Blanks lead) (hgap : Blanks gap)
    (hlast : ∀ f : DocumentField, lay [(f.name, r.member f)] =
      lead ++ (quote f.name ++ ':' :: (gap ++ compact (r.member f))))
    (hmore : ∀ (f : DocumentField) m ms, lay ((f.name, r.member f) :: m :: ms) =
      lead ++ (quote f.name ++ ':' :: (gap ++ (compact (r.member f) ++ ',' :: lay (m :: ms)))))
    {fields : List DocumentField} (hne : fields ≠ []) :
    ∃ s, r.Spells fields s ∧ lay (fields.map fun f => (f.name, r.member f)) = lead ++ '"' :: s := by
  induction fields with
  | nil => exact absurd rfl hne
  | cons f fields ih =>
    cases fields with
    | nil =>
      refine ⟨_, .last f blanks_nil hgap, ?_⟩
      rw [List.map_singleton, hlast, quote_eq]
      rfl
    | cons g fields =>
      obtain ⟨s, hs, htext⟩ := ih (List.cons_ne_nil g fields)
      refine ⟨_, .more f blanks_nil hgap blanks_nil hlead hs, ?_⟩
      simp only [List.map_cons] at htext ⊢
      rw [hmore, htext, quote_eq]
      rfl

theorem spells_compact (r : Record) {fields : List DocumentField} (hne : fields ≠ []) :
    ∃ s, r.Spells fields s ∧
      (r.abridged fields).compactText.toList = '\x7b' :: '"' :: (s ++ ['\x7d']) := by
  obtain ⟨s, hs, htext⟩ := r.spells_layout compactMembers blanks_nil blanks_nil
    (fun f => by rw [compactMembers]; rfl)
    (fun f m ms => by rw [compactMembers, List.append_assoc]; rfl) hne
  refine ⟨s, hs, ?_⟩
  rw [compactText, String.toList_ofList, abridged, compact, htext]
  rfl

/-- The layout with one member a line has a line break before each and a blank before each value,
at whatever depth it stands. -/
theorem spells_prettyAt (r : Record) (level : Nat) {fields : List DocumentField}
    (hne : fields ≠ []) :
    ∃ s, r.Spells fields s ∧ prettyAt level (r.abridged fields) =
      '\x7b' :: (newline (level + 1) ++ '"' :: (s ++ (newline level ++ ['\x7d']))) := by
  obtain ⟨s, hs, htext⟩ := r.spells_layout (prettyMembers (level + 1)) (blanks_newline (level + 1))
    blanks_space (fun f => by simp [prettyMembers, prettyAt_member])
    (fun f m ms => by simp [prettyMembers, prettyAt_member]) hne
  refine ⟨s, hs, ?_⟩
  cases fields with
  | nil => exact absurd rfl hne
  | cons f fields =>
    rw [List.map_cons] at htext
    rw [abridged, List.map_cons, prettyAt, htext]
    simp

end Record

/-! ## Reading back -/

namespace Record

variable {r : Record} {fields : List DocumentField}

/-- **A spelling of a record says what the record says.** -/
theorem Spells.ofText {s : List Char} (h : r.Spells fields s) (hfields : r.Abridges fields)
    {text : String} {b z : List Char} (hb : Blanks b) (hz : Blanks z)
    (htext : text.toList = '\x7b' :: (b ++ '"' :: (s ++ (z ++ ['\x7d'])))) :
    Document.ofText text = .ok r.document := by
  have hbound : fields.length ≤ (s ++ (z ++ ['\x7d'])).length + 1 := by
    have hle := h.length_le
    rw [List.length_append]
    omega
  have hmembers := h.readMembers hfields.nodup hz [] hbound {} fun _ _ => List.not_mem_nil
  rw [hfields.copy_document] at hmembers
  have hobject : Document.readObject (b ++ '"' :: (s ++ (z ++ ['\x7d']))) =
      .ok (r.document, []) := by
    rw [Document.readObject, skipBlanks_append hb, skipBlanks_cons (by decide)]
    simp only [hmembers]
    rfl
  rw [Document.ofText, htext, skipBlanks_cons (by decide)]
  simp only [hobject]
  rfl

/-- A document with one member a line says what the record says at whatever depth it was written. -/
theorem Abridges.ofText_prettyAt (h : r.Abridges fields) (level : Nat) :
    Document.ofText (String.ofList (prettyAt level (r.abridged fields))) = .ok r.document := by
  obtain ⟨s, hs, htext⟩ := r.spells_prettyAt level h.ne_nil
  exact hs.ofText h (blanks_newline _) (blanks_newline _) (by rw [String.toList_ofList, htext])

/-- A document of the record in either layout, with what has its default left out, says what the
record says. -/
theorem Abridges.ofText (h : r.Abridges fields) :
    ∀ text ∈ [(r.abridged fields).pretty, (r.abridged fields).compactText],
      Document.ofText text = .ok r.document := by
  intro text htext
  simp only [List.mem_cons, List.not_mem_nil, or_false] at htext
  rcases htext with rfl | rfl
  · exact h.ofText_prettyAt 0
  · obtain ⟨s, hs, hcompact⟩ := r.spells_compact h.ne_nil
    exact hs.ofText h blanks_nil blanks_nil hcompact

end Record

/-- A number below the counter does not lift it. -/
theorem IdCounter.adopt_of_lt {c : IdCounter} {n : UInt64} (h : n < c.next) :
    (c.adopt n).2 = c := by
  have hbeyond : ¬ c.next < if n = 18446744073709551615 then n else n + 1 := by
    rw [UInt64.lt_iff_toNat_lt] at h ⊢
    split
    · omega
    · rw [UInt64.toNat_add, UInt64.toNat_one]
      exact Nat.not_lt.2 (Nat.le_trans (Nat.mod_le _ _) h)
  simp only [adopt, if_neg hbeyond]

namespace Record

/-- The text is read as the record: with its identity as the very same, without it as a record with
the same content and the next fresh identity. An identity that was given before lifts no counter. -/
structure ReadsBack (r : Record) (c : IdCounter) (text : String) : Prop where
  kept : ofJsonKeepingId text c = .ok (r, (c.adopt r.id.value).2)
  fresh : ofJson text c = .ok ({ r with id := ⟨c.next⟩ }, ⟨c.next + 1⟩)
  counter : r.id.value < c.next → ofJsonKeepingId text c = .ok (r, c)

theorem readsBack_of_ofText {r : Record} {text : String} (h : Document.ofText text = .ok r.document)
    (c : IdCounter) : r.shown.ReadsBack c text := by
  have hread : readDocument text = .ok (r.shown.toEntry, some r.id.value) := by
    rw [readDocument, h]
    rfl
  have hkept : ofJsonKeepingId text c = .ok (r.shown, (c.adopt r.id.value).2) := by
    rw [ofJsonKeepingId, hread]
    rfl
  refine ⟨hkept, ?_, ?_⟩
  · rw [ofJson, hread]
    rfl
  · intro hid
    have hbelow : r.id.value < c.next := hid
    rw [hkept, IdCounter.adopt_of_lt hbelow]

/-- **Documents lose nothing that is shown.** The document of a record is read as what the record
shows, and so is each document in which its members stand in another order, in either layout,
without any of those that have their defaults. This is the record itself, unless its timestamp lies
in a leap second that clocks hide. -/
theorem documents_lossless (r : Record) (c : IdCounter) :
    r.shown.ReadsBack c r.documentText ∧
      (∀ fields, r.Abridges fields →
        ∀ text ∈ [(r.abridged fields).pretty, (r.abridged fields).compactText],
          r.shown.ReadsBack c text) ∧
      (r.shown = r ↔ r.timestamp.time.IsShown) := by
  refine ⟨?_, ?_, shown_eq_self_iff⟩
  · exact readsBack_of_ofText (r.abridges_all.ofText _ List.mem_cons_self) c
  · intro fields h text htext
    exact readsBack_of_ofText (h.ofText text htext) c

/-- A record of a leap second before year 0, with most of its members at their defaults. -/
def brief : Record where
  id := ⟨7⟩
  timestamp :=
    { date := ⟨-1, 6, 30, by decide, by decide, by decide⟩
      time := .leapSecond 1 (by decide) }
  level := "a\"\n\u2028"
  threadId := some (-9223372036854775808)
  size := some 18446744073709551615

/-- The members of that record that need to be told, in another order. -/
def briefFields : List DocumentField := [.size, .level, .id, .threadId, .timestamp]

/-- The shortest document of that record. -/
def briefText : String :=
  "\x7b\"size\":18446744073709551615,\"level\":\"a\\\"\\n\u2028\",\"id\":7," ++
    "\"threadId\":-9223372036854775808,\"timestamp\":\"-0001-06-30T23:59:60.000000001\"\x7d"

theorem documents_lossless_brief :
    brief.Abridges briefFields ∧
      briefText ∈ [(brief.abridged briefFields).pretty, (brief.abridged briefFields).compactText] ∧
      brief.id.value < 8 ∧
      ofJsonKeepingId briefText ⟨8⟩ = .ok (brief, ⟨8⟩) ∧
      ofJson briefText ⟨8⟩ = .ok ({ brief with id := ⟨8⟩ }, ⟨9⟩) := by
  have hfields : brief.Abridges briefFields :=
    { nodup := by decide
      omitted := by
        intro f hf
        cases f with
        | id | timestamp | level | threadId | size => exact absurd (by decide) hf
        | message | sourceIp | request | statusCode | source | user => rfl }
  have htext : briefText ∈
      [(brief.abridged briefFields).pretty, (brief.abridged briefFields).compactText] := by
    decide +kernel
  obtain ⟨-, habridged, hshown⟩ := documents_lossless brief ⟨8⟩
  have hback := habridged briefFields hfields briefText htext
  rw [hshown.2 (by decide)] at hback
  exact ⟨hfields, htext, by decide, hback.counter (by decide), hback.fresh⟩

/-- The record of a leap second that clocks hide is read as another one. -/
theorem document_hiddenLeap :
    let r : Record := { timestamp := .hiddenLeap, level := "Info", id := ⟨1⟩ }
    ofJsonKeepingId r.documentText ⟨2⟩ = .ok (r.shown, ⟨2⟩) ∧ r.shown ≠ r ∧
      ¬ r.ReadsBack ⟨2⟩ r.documentText := by
  intro r
  have hread : ofJsonKeepingId r.documentText ⟨2⟩ = .ok (r.shown, ⟨2⟩) :=
    (readsBack_of_ofText (r.abridges_all.ofText _ List.mem_cons_self) ⟨2⟩).kept
  have hne : r.shown ≠ r := by decide
  refine ⟨hread, hne, fun hback => ?_⟩
  have hsame := hback.kept
  rw [hread] at hsame
  exact hne (congrArg Prod.fst (Except.ok.inj hsame))

end Record

end LogDigest
