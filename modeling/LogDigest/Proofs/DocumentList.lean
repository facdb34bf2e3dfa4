import Mathlib.Data.List.Forall2
import LogDigest.Proofs.Bounded
import LogDigest.Proofs.Document
import LogDigest.Proofs.Pretty

/-!
# Lists of documents are read back record by record

An exported list of documents is read as the list of the values of the records, and each of these
values, however it is written down again, is read as what its record shows (`documents_read_back`).
So nothing is repeated or moved, only leap seconds that clocks hide are lost, and lists that show
different records have different texts.

**The text.** A document holds texts, whole numbers and null only (`Record.whole_toJson`), and what
is made of these comes back from its form with one item a line.

**The elements** (`Record.WrittenAs`). A value that was read may be written in either layout, at any
depth, and with its members in any order. Its identity is adopted, which moves the counter on and
nothing else, so one element after the other is read (`readAllKeepingIds`).
-/

namespace LogDigest

open Json

/-! ## The values of documents -/

theorem Json.Flat.whole {v : Json} (h : v.Flat) : v.Whole := by
  cases h with
  | null => exact .null
  | string t => exact .string t
  | int hn => exact .int hn

theorem Record.whole_toJson (r : Record) : r.toJson.Whole := by
  refine .object fun m hm => ?_
  obtain ⟨f, -, rfl⟩ := List.mem_map.1 hm
  exact (r.flat_member f).whole

theorem whole_documents (records : List Record) : (documents records).Whole := by
  refine .array fun v hv => ?_
  obtain ⟨r, -, rfl⟩ := List.mem_map.1 hv
  exact r.whole_toJson

/-! ## The elements -/

namespace Record

/-- The text is a document of the record with all of its members: in any order, in either layout,
at any depth. -/
inductive WrittenAs (r : Record) : String → Prop
  | compact {fields : List DocumentField} (h : fields.Perm DocumentField.all) :
    WrittenAs r (r.abridged fields).compactText
  | lines {fields : List DocumentField} (h : fields.Perm DocumentField.all) (level : Nat) :
    WrittenAs r (String.ofList (prettyAt level (r.abridged fields)))

theorem abridges_of_perm (r : Record) {fields : List DocumentField}
    (h : fields.Perm DocumentField.all) : r.Abridges fields where
  nodup := h.nodup_iff.2 (by decide)
  omitted f hf := absurd (h.mem_iff.2 (by cases f <;> decide)) hf

theorem WrittenAs.readsBack {r : Record} {text : String} (h : r.WrittenAs text) (c : IdCounter) :
    r.shown.ReadsBack c text := by
  refine readsBack_of_ofText ?_ c
  cases h with
  | compact h => exact (r.abridges_of_perm h).ofText _ (by simp)
  | lines h level => exact (r.abridges_of_perm h).ofText_prettyAt level

theorem writtenAs_documentText (r : Record) : r.WrittenAs r.documentText :=
  .lines (.refl _) 0

theorem toJson_shown (r : Record) : r.shown.toJson = r.toJson := by
  have hmember : ∀ f, r.shown.member f = r.member f := by
    intro f
    cases f with
    | timestamp => exact congrArg Json.string r.timestamp.interchange_shown
    | id | level | message | sourceIp | request | statusCode | threadId | source | user | size =>
      rfl
  simp only [toJson, hmember]

/-- What a record shows is known by its value. -/
theorem toJson_inj {r r' : Record} : r.toJson = r'.toJson ↔ r.shown = r'.shown := by
  constructor
  · intro h
    have hr := (r.writtenAs_documentText.readsBack {}).kept
    have hr' := (r'.writtenAs_documentText.readsBack {}).kept
    rw [documentText, h] at hr
    rw [documentText, hr] at hr'
    exact (Prod.mk.inj (Except.ok.inj hr')).1
  · intro h
    rw [← r.toJson_shown, h, r'.toJson_shown]

end Record

/-- Reads documents one after the other, with the identities that they name. -/
def readAllKeepingIds (c : IdCounter) :
    List String → Except DocumentError (List Record × IdCounter)
  | [] => .ok ([], c)
  | text :: texts => do
    let (r, c) ← Record.ofJsonKeepingId text c
    let (rs, c) ← readAllKeepingIds c texts
    return (r :: rs, c)

/-- Texts of records are read as what the records show, and the counter is beyond all of them. -/
theorem readAllKeepingIds_eq {records : List Record} {texts : List String}
    (h : List.Forall₂ Record.WrittenAs records texts) (c : IdCounter) :
    readAllKeepingIds c texts =
      .ok (records.map Record.shown, records.foldl (fun c r => (c.adopt r.id.value).2) c) := by
  induction h generalizing c with
  | nil => rfl
  | cons hr _ ih =>
    rw [readAllKeepingIds, (hr.readsBack c).kept]
    show (do let (rs, c) ← readAllKeepingIds _ _; return (_ :: rs, c)) = _
    rw [ih]
    rfl

/-! ## Exports -/

/-- An exported list of documents is read as the list of the values of the records. -/
theorem strict?_exportBytes_json (records : List Record) :
    (Utf8.strict? (exportBytes records .json)).map Json.ofText =
      some (.ok (.array (records.map Record.toJson))) := by
  have hread := (whole_documents records).ofText_pretty
  rw [exportBytes, Utf8.strict?_encode, Option.map_some, exportText, hread]
  rfl

/-- Lists are exported alike exactly if they show the same records. -/
theorem exportBytes_json_inj {xs ys : List Record} :
    exportBytes xs .json = exportBytes ys .json ↔ xs.map Record.shown = ys.map Record.shown := by
  have hvalues : xs.map Record.toJson = ys.map Record.toJson ↔
      xs.map Record.shown = ys.map Record.shown := by
    rw [← List.forall₂_eq_eq_eq, ← List.forall₂_eq_eq_eq]
    simp only [List.forall₂_map_left_iff, List.forall₂_map_right_iff, Record.toJson_inj]
  constructor
  · intro h
    have hys := strict?_exportBytes_json ys
    rw [← h, strict?_exportBytes_json xs] at hys
    exact hvalues.1 (Json.array.inj (Except.ok.inj (Option.some.inj hys)))
  · intro h
    have hdocuments : documents xs = documents ys := congrArg Json.array (hvalues.2 h)
    rw [exportBytes, exportBytes, exportText, exportText, hdocuments]

/-- **Lists of documents are read back record by record.** The bytes of an exported list are those
of a text that is read as the values of the records in their order, each the value that the
document of its record is read as. Whichever texts these values are written as, they are read as
what the records show, with their identities. Lists that show other records have another text, and a
list shows its own records, unless a timestamp lies in a leap second that clocks hide. A writer with
room for the list takes its bytes, and all records are counted. -/
theorem documents_read_back (records : List Record) :
    (Utf8.strict? (exportBytes records .json)).map Json.ofText =
        some (.ok (.array (records.map Record.toJson))) ∧
      (∀ r ∈ records, Json.ofText r.documentText.toList = .ok r.toJson) ∧
      (∀ (texts : List String) (c : IdCounter), List.Forall₂ Record.WrittenAs records texts →
        readAllKeepingIds c texts =
          .ok (records.map Record.shown, records.foldl (fun c r => (c.adopt r.id.value).2) c)) ∧
      (∀ others, exportBytes others .json = exportBytes records .json ↔
        others.map Record.shown = records.map Record.shown) ∧
      (records.map Record.shown = records ↔ ∀ r ∈ records, r.timestamp.time.IsShown) ∧
      ∀ (path : Path) (w : BoundedWriter), (exportBytes records .json).length ≤ w.room →
        w.writeRecords path records .json =
          (w.take (exportBytes records .json), .ok records.length) := by
  refine ⟨strict?_exportBytes_json records, ?_, ?_, fun others => exportBytes_json_inj, ?_, ?_⟩
  · intro r _
    exact r.whole_toJson.ofText_pretty
  · intro texts c h
    exact readAllKeepingIds_eq h c
  · have hself : records.map Record.shown = records.map id ↔
        ∀ r ∈ records, r.timestamp.time.IsShown := by
      rw [List.map_inj_left]
      exact forall₂_congr fun r _ => Record.shown_eq_self_iff
    rwa [List.map_id] at hself
  · intro path w h
    exact BoundedWriter.writeRecords_of_le path records .json h

def fieldsByName : List DocumentField :=
  [.id, .level, .message, .request, .size, .source, .sourceIp, .statusCode, .threadId, .timestamp,
   .user]

theorem documents_read_back_repeated :
    readAllKeepingIds ⟨7⟩
        [(Record.brief.abridged fieldsByName).compactText, Record.brief.documentText] =
          .ok ([.brief, .brief], ⟨8⟩) ∧
      exportBytes [.brief] .json ≠ exportBytes [.brief, .brief] .json ∧
      ∃ w : BoundedWriter, (w.writeRecords ⟨"out.json"⟩ [.brief, .brief] .json).2 = .ok 2 := by
  have hperm : fieldsByName.Perm DocumentField.all := by decide
  obtain ⟨-, -, hread, hinj, hshown, hwrite⟩ := documents_read_back [.brief, .brief]
  refine ⟨?_, ?_, ?_⟩
  · have htexts : List.Forall₂ Record.WrittenAs [.brief, .brief]
        [(Record.brief.abridged fieldsByName).compactText, Record.brief.documentText] :=
      .cons (.compact hperm) (.cons (.lines (.refl _) 0) .nil)
    rw [hread _ ⟨7⟩ htexts, hshown.2 (by decide)]
    rfl
  · intro h
    cases (hinj [.brief]).1 h
  · obtain ⟨room, hroom⟩ : ∃ n, (exportBytes [.brief, .brief] .json).length = n := ⟨_, rfl⟩
    refine ⟨⟨room, []⟩, ?_⟩
    rw [hwrite ⟨"out.json"⟩ ⟨room, []⟩ (Nat.le_of_eq hroom), List.length_cons,
      List.length_singleton]

/-- A leap second that clocks hide is lost: the list is exported like another one, and read as
that. -/
theorem documents_hiddenLeap :
    let r : Record := { timestamp := .hiddenLeap, level := "Info", id := ⟨1⟩ }
    [r.shown] ≠ [r] ∧ exportBytes [r.shown] .json = exportBytes [r] .json ∧
      readAllKeepingIds ⟨2⟩ [r.documentText] = .ok ([r.shown], ⟨2⟩) := by
  intro r
  refine ⟨by decide, exportBytes_json_inj.2 (by decide), ?_⟩
  rw [readAllKeepingIds_eq (.cons r.writtenAs_documentText .nil)]
  rfl

end LogDigest
