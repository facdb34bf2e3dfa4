import LogDigest.Text.Utf8

/-!
# Decoding begins anew at every ASCII byte, and inverts encoding

A text is decoded from its bytes without a fault (`strict?_encode`), because every character is,
whatever follows it.

An ASCII byte is its own character wherever it stands, whatever was begun before it. So bytes before
and behind it are decoded each by themselves (`lossy_append_ascii`), and a line feed is decoded from
no other byte than its own (`newline_mem_lossy`).

**Steps.** What one byte can do is said once for a first byte (`start_cases`) and once for a next
byte (`feed_cases`).

**The invariant.** A begun character asks for a byte above ASCII next, and it comes to a number
above ASCII, whichever bytes follow (`Begun.Sound`). A first byte begins such a character, and a
next byte keeps it so.
-/

namespace LogDigest.Utf8

attribute [local instance (high)] instPowNat

/-! ## Steps -/

/-- Neither the next byte nor the number that it all comes to is ASCII. -/
structure Begun.Sound (g : Begun) : Prop where
  low : 0x80 ≤ g.low
  large : 0x80 ≤ (g.bits * 64 + (g.low - 0x80)) * 64 ^ g.due

/-- A first byte is an ASCII character, or a fault, or begins a character. -/
theorem start_cases (b : Nat) :
    (b < 0x80 ∧ start b = ([some (Char.ofNat b)], none)) ∨ start b = ([none], none) ∨
      ∃ g : Begun, g.Sound ∧ start b = ([], some g) := by
  rw [start]
  split
  · rename_i h
    exact Or.inl ⟨Nat.lt_succ_of_le h, rfl⟩
  right
  split
  · refine Or.inr ⟨_, ⟨Nat.le_refl _, ?_⟩, rfl⟩
    dsimp only
    omega
  split
  · exact Or.inr ⟨_, ⟨by decide, by decide⟩, rfl⟩
  split
  · exact Or.inr ⟨_, ⟨Nat.le_refl _, by decide⟩, rfl⟩
  split
  · refine Or.inr ⟨_, ⟨Nat.le_refl _, ?_⟩, rfl⟩
    dsimp only
    omega
  split
  · exact Or.inr ⟨_, ⟨by decide, by decide⟩, rfl⟩
  split
  · refine Or.inr ⟨_, ⟨Nat.le_refl _, ?_⟩, rfl⟩
    dsimp only
    omega
  split
  · exact Or.inr ⟨_, ⟨Nat.le_refl _, by decide⟩, rfl⟩
  · exact Or.inl rfl

/-- A byte behind a begun character ends it, or continues it, or makes a fault of it and is a first
byte. -/
theorem feed_cases {g : Begun} (hg : g.Sound) (b : Nat) :
    (∃ n, 0x80 ≤ n ∧ feed (some g) b = ([some (Char.ofNat n)], none)) ∨
      (∃ g' : Begun, g'.Sound ∧ feed (some g) b = ([], some g')) ∨
      feed (some g) b = (none :: (start b).1, (start b).2) := by
  obtain ⟨bits, due, low, high⟩ := g
  obtain ⟨hlow, hlarge⟩ := hg
  dsimp only at hlow hlarge
  rw [feed]
  split
  · rename_i hb
    dsimp only at hb
    -- The least next byte is the worst case, and the invariant is about that one.
    have hnext : 0x80 ≤ (bits * 64 + (b - 0x80)) * 64 ^ due := by
      have hbits : bits * 64 + (low - 0x80) ≤ bits * 64 + (b - 0x80) := by omega
      exact Nat.le_trans hlarge (Nat.mul_le_mul_right _ hbits)
    cases due with
    | zero =>
      rw [Nat.pow_zero, Nat.mul_one] at hnext
      exact Or.inl ⟨_, hnext, rfl⟩
    | succ due =>
      refine Or.inr (Or.inl ⟨_, ⟨Nat.le_refl _, ?_⟩, rfl⟩)
      dsimp only
      rwa [Nat.sub_self, Nat.add_zero, Nat.mul_assoc, ← Nat.pow_succ']
  · exact Or.inr (Or.inr rfl)

theorem sound_feed {begun : Option Begun} (h : ∀ g ∈ begun, g.Sound) (b : Nat) :
    ∀ g ∈ (feed begun b).2, g.Sound := by
  have hstart : ∀ g ∈ (start b).2, g.Sound := by
    rcases start_cases b with ⟨-, h⟩ | h | ⟨g, hg, h⟩
    all_goals
      rw [h]
      rintro _ ⟨⟩
    exact hg
  cases begun with
  | none => exact hstart
  | some g =>
    rcases feed_cases (h g rfl) b with ⟨n, -, h⟩ | ⟨g', hg', h⟩ | h
    · rw [h]
      rintro _ ⟨⟩
    · rw [h]
      rintro _ ⟨⟩
      exact hg'
    · rw [h]
      exact hstart

theorem decodeFrom_cons (begun : Option Begun) (b : UInt8) (bs : List UInt8) :
    decodeFrom begun (b :: bs) =
      (feed begun b.toNat).1 ++ decodeFrom (feed begun b.toNat).2 bs := by
  rw [decodeFrom]

/-! ## ASCII bytes -/

theorem start_ascii {b : Nat} (hb : b < 0x80) : start b = ([some (Char.ofNat b)], none) :=
  if_pos (Nat.le_of_lt_succ hb)

/-- An ASCII byte is its own character, and what was begun before it is a fault. -/
theorem feed_ascii {begun : Option Begun} (h : ∀ g ∈ begun, g.Sound) {b : Nat} (hb : b < 0x80) :
    feed begun b = (decodeFrom begun [] ++ [some (Char.ofNat b)], none) := by
  cases begun with
  | none => exact start_ascii hb
  | some g =>
    have hlow := (h g rfl).low
    rw [feed, if_neg (by omega), start_ascii hb]
    rfl

/-- Decoding goes on behind an ASCII byte as if there were nothing before it. -/
theorem decodeFrom_append_ascii {begun : Option Begun} (h : ∀ g ∈ begun, g.Sound) {b : UInt8}
    (hb : b.toNat < 0x80) (bs cs : List UInt8) :
    decodeFrom begun (bs ++ b :: cs) =
      decodeFrom begun bs ++ some (Char.ofNat b.toNat) :: decode cs := by
  induction bs generalizing begun with
  | nil =>
    rw [List.nil_append, decodeFrom_cons, feed_ascii h hb, List.append_assoc]
    rfl
  | cons c bs ih =>
    rw [List.cons_append, decodeFrom_cons, decodeFrom_cons, ih (sound_feed h c.toNat),
      List.append_assoc]

/-- **Text begins anew at an ASCII byte.** -/
theorem lossy_append_ascii {b : UInt8} (hb : b.toNat < 0x80) (bs cs : List UInt8) :
    lossy (bs ++ b :: cs) = lossy bs ++ Char.ofNat b.toNat :: lossy cs := by
  have hnone : ∀ g ∈ (none : Option Begun), g.Sound := by simp
  rw [lossy, decode, decodeFrom_append_ascii hnone hb, List.map_append, List.map_cons]
  rfl

/-! ## Line feeds -/

theorem ofNat_eq_newline {n : Nat} (h : Char.ofNat n = '\n') : n = 10 := by
  by_cases hvalid : n.isValidChar
  · have hchar : Char.ofNat n = Char.ofNatAux n hvalid := dif_pos hvalid
    have hnumber : (Char.ofNatAux n hvalid).toNat = n := rfl
    rw [← hnumber, ← hchar, h]
    rfl
  · have hnul : Char.ofNat n = Char.ofNat 0 := dif_neg hvalid
    rw [hnul] at h
    exact absurd h (by decide)

theorem start_newline {b : Nat} (h : some '\n' ∈ (start b).1) : b = 10 := by
  rcases start_cases b with ⟨-, hb⟩ | hb | ⟨g, -, hb⟩
  · rw [hb, List.mem_singleton, Option.some.injEq] at h
    exact ofNat_eq_newline h.symm
  · rw [hb] at h
    cases List.mem_singleton.1 h
  · rw [hb] at h
    cases h

/-- A line feed is decided by its own byte only. -/
theorem feed_newline {begun : Option Begun} (hsound : ∀ g ∈ begun, g.Sound) {b : Nat}
    (h : some '\n' ∈ (feed begun b).1) : b = 10 := by
  cases begun with
  | none => exact start_newline h
  | some g =>
    rcases feed_cases (hsound g rfl) b with ⟨n, hn, hb⟩ | ⟨g', -, hb⟩ | hb
    · rw [hb, List.mem_singleton, Option.some.injEq] at h
      rw [ofNat_eq_newline h.symm] at hn
      exact absurd hn (by decide)
    · rw [hb] at h
      cases h
    · rw [hb] at h
      exact start_newline ((List.mem_cons.1 h).resolve_left nofun)

theorem newline_mem_decodeFrom {begun : Option Begun} (hsound : ∀ g ∈ begun, g.Sound)
    {bs : List UInt8} (h : some '\n' ∈ decodeFrom begun bs) : (10 : UInt8) ∈ bs := by
  induction bs generalizing begun with
  | nil =>
    cases begun with
    | none => cases h
    | some g => cases List.mem_singleton.1 h
  | cons b bs ih =>
    rw [decodeFrom_cons, List.mem_append] at h
    rcases h with h | h
    · have hb : b = 10 := UInt8.toNat_inj.1 (feed_newline hsound h)
      rw [hb]
      exact List.mem_cons_self
    · exact List.mem_cons_of_mem _ (ih (sound_feed hsound b.toNat) h)

/-- A line feed in the text is one among the bytes. -/
theorem newline_mem_lossy {bs : List UInt8} (h : '\n' ∈ lossy bs) : (10 : UInt8) ∈ bs := by
  rw [lossy, List.mem_map] at h
  obtain ⟨c, hc, hvalue⟩ := h
  cases c with
  | none => exact absurd hvalue (by decide)
  | some c =>
    rw [Option.getD_some] at hvalue
    subst hvalue
    exact newline_mem_decodeFrom (by simp) hc

/-! ## Bytes that are there -/

theorem decodeFrom_some_ne_nil {g : Begun} (hg : g.Sound) (bs : List UInt8) :
    decodeFrom (some g) bs ≠ [] := by
  induction bs generalizing g with
  | nil => exact List.cons_ne_nil _ _
  | cons b bs ih =>
    rw [decodeFrom_cons]
    rcases feed_cases hg b.toNat with ⟨n, -, h⟩ | ⟨g', hg', h⟩ | h
    · rw [h]
      exact List.cons_ne_nil _ _
    · rw [h]
      exact ih hg'
    · rw [h]
      exact List.cons_ne_nil _ _

/-- Bytes give some text. -/
theorem lossy_ne_nil {bs : List UInt8} (h : bs ≠ []) : lossy bs ≠ [] := by
  cases bs with
  | nil => exact absurd rfl h
  | cons b bs =>
    rw [lossy, Ne, List.map_eq_nil_iff, decode, decodeFrom_cons, feed]
    rcases start_cases b.toNat with ⟨-, h⟩ | h | ⟨g, hg, h⟩
    · rw [h]
      exact List.cons_ne_nil _ _
    · rw [h]
      exact List.cons_ne_nil _ _
    · rw [h]
      exact decodeFrom_some_ne_nil hg bs

/-! ## Text comes back from its bytes -/

/-- A first byte begins a character with these bits, and its bounds let this next byte through. -/
structure Begins (first bits due next : Nat) (g : Begun) : Prop where
  start : start first = ([], some g)
  bits : g.bits = bits
  due : g.due = due
  low : g.low ≤ next
  high : next ≤ g.high

theorem exists_begins_two {v : Nat} (hlow : 0x80 ≤ v) (hhigh : v < 0x800) :
    ∃ g, Begins (v / 64 + 192) (v / 64) 0 (v % 64 + 128) g := by
  refine ⟨{ bits := v / 64 + 192 - 192, due := 0 }, ?_, ?_, rfl, ?_, ?_⟩
  · rw [start, if_neg (by omega), if_pos (by omega)]
  all_goals
    dsimp only
    omega

theorem exists_begins_three {v : Nat} (hlow : 0x800 ≤ v) (hhigh : v < 0x10000)
    (hvalid : v < 0xD800 ∨ 0xDFFF < v) :
    ∃ g, Begins (v / 4096 + 224) (v / 4096) 1 (v / 64 % 64 + 128) g := by
  by_cases hfirst : v / 4096 = 0
  · refine ⟨{ bits := 0, due := 1, low := 0xA0 }, ?_, hfirst.symm, rfl, ?_, ?_⟩
    · rw [hfirst]
      rfl
    all_goals
      dsimp only
      omega
  · by_cases hsurrogate : v / 4096 = 13
    · refine ⟨{ bits := 13, due := 1, high := 0x9F }, ?_, hsurrogate.symm, rfl, ?_, ?_⟩
      · rw [hsurrogate]
        rfl
      all_goals
        dsimp only
        omega
    · refine ⟨{ bits := v / 4096 + 224 - 224, due := 1 }, ?_, ?_, rfl, ?_, ?_⟩
      · rw [start, if_neg (by omega), if_neg (by omega), if_neg (by omega), if_neg (by omega),
          if_pos (by omega)]
      all_goals
        dsimp only
        omega

theorem exists_begins_four {v : Nat} (hlow : 0x10000 ≤ v) (hhigh : v < 0x110000) :
    ∃ g, Begins (v / 262144 + 240) (v / 262144) 2 (v / 4096 % 64 + 128) g := by
  by_cases hfirst : v / 262144 = 0
  · refine ⟨{ bits := 0, due := 2, low := 0x90 }, ?_, hfirst.symm, rfl, ?_, ?_⟩
    · rw [hfirst]
      rfl
    all_goals
      dsimp only
      omega
  · by_cases hlast : v / 262144 = 4
    · refine ⟨{ bits := 4, due := 2, high := 0x8F }, ?_, hlast.symm, rfl, ?_, ?_⟩
      · rw [hlast]
        rfl
      all_goals
        dsimp only
        omega
    · refine ⟨{ bits := v / 262144 + 240 - 240, due := 2 }, ?_, ?_, rfl, ?_, ?_⟩
      · rw [start, if_neg (by omega), if_neg (by omega), if_neg (by omega), if_neg (by omega),
          if_neg (by omega), if_neg (by omega), if_pos (by omega)]
      all_goals
        dsimp only
        omega

/-- A byte within the bounds is the last one that a character takes. -/
theorem feed_last {g : Begun} {x : Nat} (hdue : g.due = 0) (hlow : g.low ≤ x + 128)
    (hhigh : x + 128 ≤ g.high) :
    feed (some g) (x + 128) = ([some (Char.ofNat (g.bits * 64 + x))], none) := by
  rw [feed, if_pos ⟨hlow, hhigh⟩, hdue, Nat.add_sub_cancel]

/-- A byte within the bounds goes on with a character that takes more. -/
theorem feed_more {g : Begun} {x due : Nat} (hdue : g.due = due + 1) (hlow : g.low ≤ x + 128)
    (hhigh : x + 128 ≤ g.high) :
    feed (some g) (x + 128) = ([], some { bits := g.bits * 64 + x, due }) := by
  rw [feed, if_pos ⟨hlow, hhigh⟩, hdue, Nat.add_sub_cancel]

theorem decodeFrom_ofNat_cons (begun : Option Begun) {b : Nat} (hb : b < 256) (bs : List UInt8) :
    decodeFrom begun (UInt8.ofNat b :: bs) =
      (feed begun b).1 ++ decodeFrom (feed begun b).2 bs := by
  rw [decodeFrom_cons, UInt8.toNat_ofNat_of_lt' hb]

/-- A character is decoded from its bytes, whatever follows. -/
theorem decode_utf8EncodeChar_append (c : Char) (bs : List UInt8) :
    decode (String.utf8EncodeChar c ++ bs) = some c :: decode bs := by
  have hback : ∀ {n : Nat}, n = c.toNat → Char.ofNat n = c := by
    rintro n rfl
    exact Char.ofNat_toNat c
  have hvalid : c.toNat < 0xD800 ∨ 0xDFFF < c.toNat ∧ c.toNat < 0x110000 := c.valid
  have hv : c.val.toNat = c.toNat := rfl
  rw [String.utf8EncodeChar.eq_def, hv]
  dsimp only
  generalize c.toNat = v at hback hvalid
  have hlast : ∀ x < 64, ∀ bits,
      feed (some { bits, due := 0 }) (x + 128) = ([some (Char.ofNat (bits * 64 + x))], none) :=
    fun x hx bits => feed_last rfl (by dsimp only; omega) (by dsimp only; omega)
  split
  · rename_i h
    rw [List.singleton_append, decode, decodeFrom_ofNat_cons none (by omega), feed,
      start_ascii (by omega), hback rfl]
    rfl
  split
  · rename_i h h'
    obtain ⟨g, hg⟩ := exists_begins_two (v := v) (by omega) (by omega)
    have hmod : v / 64 % 32 = v / 64 := by omega
    rw [hmod, List.cons_append, List.singleton_append, decode,
      decodeFrom_ofNat_cons none (by omega), feed, hg.start,
      decodeFrom_ofNat_cons _ (by omega), feed_last hg.due hg.low hg.high, hg.bits,
      hback (by omega)]
    rfl
  split
  · rename_i h h' h''
    obtain ⟨g, hg⟩ := exists_begins_three (v := v) (by omega) (by omega) (by omega)
    have hmod : v / 4096 % 16 = v / 4096 := by omega
    rw [hmod, List.cons_append, List.cons_append, List.singleton_append, decode,
      decodeFrom_ofNat_cons none (by omega), feed, hg.start,
      decodeFrom_ofNat_cons _ (by omega), feed_more hg.due hg.low hg.high, hg.bits,
      decodeFrom_ofNat_cons _ (by omega), hlast _ (by omega), hback (by omega)]
    rfl
  · rename_i h h' h''
    obtain ⟨g, hg⟩ := exists_begins_four (v := v) (by omega) (by omega)
    have hmod : v / 262144 % 8 = v / 262144 := by omega
    have hmore : ∀ x < 64, ∀ bits,
        feed (some { bits, due := 1 }) (x + 128) = ([], some { bits := bits * 64 + x, due := 0 }) :=
      fun x hx bits => feed_more rfl (by dsimp only; omega) (by dsimp only; omega)
    rw [hmod, List.cons_append, List.cons_append, List.cons_append, List.singleton_append, decode,
      decodeFrom_ofNat_cons none (by omega), feed, hg.start,
      decodeFrom_ofNat_cons _ (by omega), feed_more hg.due hg.low hg.high, hg.bits,
      decodeFrom_ofNat_cons _ (by omega), hmore _ (by omega),
      decodeFrom_ofNat_cons _ (by omega), hlast _ (by omega), hback (by omega)]
    rfl

theorem decode_encode (s : List Char) : decode (encode s) = s.map some := by
  induction s with
  | nil => rfl
  | cons c s ih =>
    rw [encode, List.flatMap_cons, decode_utf8EncodeChar_append, ← encode, ih, List.map_cons]

/-- **A text is read from its bytes.** -/
theorem strict?_encode (s : List Char) : strict? (encode s) = some s := by
  rw [strict?, decode_encode]
  induction s with
  | nil => rfl
  | cons c s ih => simp only [List.map_cons, List.mapM_cons, ih, id]; rfl

theorem encode_append (s t : List Char) : encode (s ++ t) = encode s ++ encode t :=
  List.flatMap_append

end LogDigest.Utf8
