import Mathlib.Algebra.Order.Group.Nat
import PluginChain.Text.Utf8

/-!
# Reading bytes that may not be UTF-8

A byte that begins a longer character says how many bytes continue it, and each of these holds six
more bits of the code point. Reading keeps the bits so far as what is pending; the pending character
is finished exactly by the bytes that continue it.

Main statements:
* `lead_cases`: what the first byte of a character makes pending are the characters that begin with
  it.
* `chars_continuation`: the bytes that continue the pending character finish it.
* `reads_chars`: any bytes are read as characters in pieces, each piece as the character it encodes
  or as the replacement character.
* `decodeLossy_encode`: the bytes of a text are read as that text.
* `decodeLossy_renders`: other bytes leave a replacement character in the text that they are read
  as.
-/

namespace PluginChain.Text.Utf8

/-! ## The bytes of one character -/

/-- The bytes after the first one of a character with the code point `n`: each has six bits of it,
    the highest first. -/
def continuation : Nat → Nat → List UInt8
  | 0, _ => []
  | due + 1, n => UInt8.ofNat (0x80 + n / 64 ^ due % 64) :: continuation due n

/-- A character with the code point `n` that begins with the byte `first` and is continued by `due`
    more bytes. -/
def Leads (first due n : Nat) : Prop :=
  (due = 1 ∧ 0x80 ≤ n ∧ n ≤ 0x7FF ∧ first = 0xC0 + n / 64) ∨
    (due = 2 ∧ 0x800 ≤ n ∧ n ≤ 0xFFFF ∧ ¬ (0xD800 ≤ n ∧ n ≤ 0xDFFF) ∧ first = 0xE0 + n / 4096) ∨
    (due = 3 ∧ 0x10000 ≤ n ∧ n ≤ 0x10FFFF ∧ first = 0xF0 + n / 262144)

theorem toNat_ofNat_of_lt {n : Nat} (h : n < 256) : (UInt8.ofNat n).toNat = n := by
  rw [UInt8.toNat_ofNat', Nat.mod_eq_of_lt h]

/-- The byte of a character that takes one. -/
theorem encodeChar_of_le {c : Char} (h : c.toNat ≤ 0x7F) :
    String.utf8EncodeChar c = [UInt8.ofNat c.toNat] := by
  simp only [String.utf8EncodeChar, Char.toNat] at *
  rw [if_pos h]

/-- The bytes of a longer character. -/
theorem encodeChar_of_leads {b : UInt8} {due : Nat} {c : Char} (h : Leads b.toNat due c.toNat) :
    String.utf8EncodeChar c = b :: continuation due c.toNat := by
  have hb {n : Nat} (hn : b.toNat = n) : UInt8.ofNat n = b := by rw [← hn, UInt8.ofNat_toNat]
  simp only [String.utf8EncodeChar]
  change Leads b.toNat due c.val.toNat at h
  change _ = b :: continuation due c.val.toNat
  generalize c.val.toNat = n at h ⊢
  rcases h
    with ⟨rfl, hlow, hhigh, hfirst⟩ | ⟨rfl, hlow, hhigh, -, hfirst⟩ | ⟨rfl, hlow, hhigh, hfirst⟩
  · rw [if_neg (by omega), if_pos hhigh, hb (by omega)]
    simp [continuation, Nat.add_comm]
  · rw [if_neg (by omega), if_neg (by omega), if_pos hhigh, hb (by omega)]
    simp [continuation, Nat.add_comm]
  · rw [if_neg (by omega), if_neg (by omega), if_neg (by omega), hb (by omega)]
    simp [continuation, Nat.add_comm]

theorem toNat_valid (c : Char) : c.toNat < 0xD800 ∨ 0xDFFF < c.toNat ∧ c.toNat < 0x110000 :=
  c.valid

/-- Every character that takes more than one byte has a first one. -/
theorem exists_leads {c : Char} (h : 0x7F < c.toNat) :
    ∃ (b : UInt8) (due : Nat), Leads b.toNat due c.toNat := by
  have hvalid := toNat_valid c
  unfold Leads
  by_cases htwo : c.toNat ≤ 0x7FF
  · exact ⟨UInt8.ofNat (0xC0 + c.toNat / 64), 1,
      .inl ⟨rfl, by omega, htwo, toNat_ofNat_of_lt (by omega)⟩⟩
  by_cases hthree : c.toNat ≤ 0xFFFF
  · exact ⟨UInt8.ofNat (0xE0 + c.toNat / 4096), 2,
      .inr (.inl ⟨rfl, by omega, hthree, by omega, toNat_ofNat_of_lt (by omega)⟩)⟩
  · exact ⟨UInt8.ofNat (0xF0 + c.toNat / 262144), 3,
      .inr (.inr ⟨rfl, by omega, by omega, toNat_ofNat_of_lt (by omega)⟩)⟩

theorem toNat_ofNat_of_isValidChar {n : Nat} (h : n.isValidChar) : (Char.ofNat n).toNat = n := by
  rw [Char.ofNat, dif_pos h]
  rfl

/-- What a first byte leads to is a character. -/
theorem Leads.isValidChar {first due n : Nat} (h : Leads first due n) : n.isValidChar := by
  unfold Nat.isValidChar
  unfold Leads at h
  omega

/-! ## What is pending -/

/-- The pending character may be the one with the code point `n`. -/
def Pending.Begins (p : Pending) (n : Nat) : Prop :=
  n / 64 ^ p.due = p.bits ∧ p.low ≤ 0x80 + n / 64 ^ (p.due - 1) % 64 ∧
    0x80 + n / 64 ^ (p.due - 1) % 64 ≤ p.high

/-- Bytes are due, and the next one has to be one that continues a character. -/
structure Pending.Open (p : Pending) : Prop where
  due : 0 < p.due
  low : 0x80 ≤ p.low
  high : p.high ≤ 0xBF

/-- What a first byte is: a character of its own, the beginning of exactly the characters that the
    pending one may be, or a byte that begins no character. -/
theorem lead_cases (b : UInt8) :
    (b.toNat ≤ 0x7F ∧ lead b = ([Char.ofNat b.toNat], none)) ∨
      (∃ p : Pending, lead b = ([], some p) ∧ p.Open ∧ ∀ due n, Leads b.toNat due n ↔
        due = p.due ∧ p.Begins n) ∨
      (lead b = ([replacement], none) ∧ ∀ due n, ¬ Leads b.toNat due n) := by
  have hlt := b.toNat_lt
  unfold lead
  generalize b.toNat = first at *
  dsimp only
  by_cases hone : first ≤ 0x7F
  · exact .inl ⟨hone, by rw [if_pos hone]⟩
  rw [if_neg hone]
  refine .inr ?_
  split_ifs
  case neg => exact .inr ⟨rfl, fun due n => by unfold Leads; omega⟩
  -- Each range of the second byte leaves out what would be too long, a surrogate or too large.
  all_goals
    refine .inl ⟨_, rfl, ⟨by simp, by simp, by simp⟩, fun due n => ?_⟩
    simp only [Leads, Pending.Begins, Nat.reducePow, Nat.reduceSub]
    omega

/-- The character after one more of its bytes. -/
def Pending.next (p : Pending) (b : UInt8) : Pending :=
  { bits := p.bits * 64 + (b.toNat - 0x80), due := p.due - 1 }

theorem feed_of_continues {p : Pending} {b : UInt8} (hlow : p.low ≤ b.toNat)
    (hhigh : b.toNat ≤ p.high) :
    feed (some p) b =
      if p.due ≤ 1 then ([Char.ofNat (p.next b).bits], none) else ([], some (p.next b)) := by
  rw [feed, if_pos ⟨hlow, hhigh⟩]
  rfl

theorem Pending.Open.next {p : Pending} (hdue : 1 < p.due) (b : UInt8) : (p.next b).Open :=
  ⟨Nat.sub_pos_of_lt hdue, Nat.le_refl _, Nat.le_refl _⟩

theorem continuation_of_pos {due : Nat} (h : 0 < due) (n : Nat) :
    continuation due n = UInt8.ofNat (0x80 + n / 64 ^ (due - 1) % 64) ::
      continuation (due - 1) n := by
  obtain ⟨due, rfl⟩ := Nat.exists_eq_add_one.2 h
  rfl

/-- The characters that a byte leaves possible are those that it continues. -/
theorem Pending.Open.begins_iff {p : Pending} (hp : p.Open) {b : UInt8} {n : Nat} :
    (p.low ≤ b.toNat ∧ b.toNat ≤ p.high) ∧ n / 64 ^ (p.due - 1) = (p.next b).bits ↔
      p.Begins n ∧ continuation p.due n = b :: continuation (p.due - 1) n := by
  have := hp.low
  have := hp.high
  have hpow : n / 64 ^ p.due = n / 64 ^ (p.due - 1) / 64 := by
    rw [Nat.div_div_eq_div_mul, Nat.pow_pred_mul hp.due]
  rw [continuation_of_pos hp.due, List.cons_eq_cons, eq_self, and_true]
  unfold Pending.Begins
  rw [hpow]
  generalize n / 64 ^ (p.due - 1) = m
  have hbyte : (UInt8.ofNat (0x80 + m % 64)).toNat = 0x80 + m % 64 := toNat_ofNat_of_lt (by omega)
  rw [← UInt8.toNat_inj, hbyte]
  change _ ∧ m = p.bits * 64 + (b.toNat - 0x80) ↔ _
  omega

/-- Every byte that continues a character may follow the second one. -/
theorem Pending.next_begins_iff {p : Pending} {b : UInt8} {n : Nat} :
    (p.next b).Begins n ↔ n / 64 ^ (p.due - 1) = (p.next b).bits := by
  refine and_iff_left ?_
  change 0x80 ≤ 0x80 + n / 64 ^ (p.due - 1 - 1) % 64 ∧ 0x80 + n / 64 ^ (p.due - 1 - 1) % 64 ≤ 0xBF
  generalize n / 64 ^ (p.due - 1 - 1) = m
  omega

/-- The bytes that continue a character finish it when it is pending. -/
theorem chars_continuation {p : Pending} (hp : p.Open) {n : Nat} (h : p.Begins n)
    (rest : List UInt8) :
    chars (some p) (continuation p.due n ++ rest) = Char.ofNat n :: chars none rest := by
  have hbytes := continuation_of_pos hp.due n
  obtain ⟨⟨hlow, hhigh⟩, hbits⟩ := hp.begins_iff.2 ⟨h, hbytes⟩
  rw [hbytes]
  generalize UInt8.ofNat _ = b at hlow hhigh hbits ⊢
  rw [List.cons_append, chars, feed_of_continues hlow hhigh]
  by_cases hlast : p.due ≤ 1
  · have hdue : p.due - 1 = 0 := Nat.sub_eq_zero_of_le hlast
    rw [hdue, Nat.pow_zero, Nat.div_one] at hbits
    rw [if_pos hlast, hdue, ← hbits]
    rfl
  · rw [if_neg hlast]
    exact chars_continuation (.next (Nat.lt_of_not_le hlast) b) (p.next_begins_iff.2 hbits) rest
termination_by p.due
decreasing_by exact Nat.sub_lt hp.due Nat.zero_lt_one

/-- What is pending is finished by the bytes that continue it, or it becomes the replacement
    character and the reading goes on behind the bytes that seemed to continue it. -/
theorem chars_pending {p : Pending} (hp : p.Open) (bytes : List UInt8) :
    (∃ n rest, p.Begins n ∧ bytes = continuation p.due n ++ rest) ∨
      ∃ piece rest, bytes = piece ++ rest ∧
        chars (some p) bytes = replacement :: chars none rest := by
  induction bytes generalizing p with
  | nil => exact .inr ⟨[], [], rfl, rfl⟩
  | cons b bytes ih =>
    by_cases hcontinues : p.low ≤ b.toNat ∧ b.toNat ≤ p.high
    case neg =>
      refine .inr ⟨[], b :: bytes, rfl, ?_⟩
      rw [chars, feed, if_neg hcontinues]
      rfl
    by_cases hlast : p.due ≤ 1
    · have hdue : p.due - 1 = 0 := Nat.sub_eq_zero_of_le hlast
      obtain ⟨hn, hbytes⟩ := hp.begins_iff.1
        ⟨hcontinues, show (p.next b).bits / 64 ^ (p.due - 1) = _ by
          rw [hdue, Nat.pow_zero, Nat.div_one]⟩
      exact .inl ⟨_, bytes, hn, by rw [hbytes, hdue]; rfl⟩
    · rw [chars, feed_of_continues hcontinues.1 hcontinues.2, if_neg hlast]
      rcases ih (.next (Nat.lt_of_not_le hlast) b)
        with ⟨n, rest, hn, hrest⟩ | ⟨piece, rest, hpiece, hread⟩
      · obtain ⟨hbegins, hbytes⟩ := hp.begins_iff.1 ⟨hcontinues, p.next_begins_iff.1 hn⟩
        exact .inl ⟨n, rest, hbegins, by rw [hbytes, hrest]; rfl⟩
      · exact .inr ⟨b :: piece, rest, by rw [hpiece]; rfl, hread⟩

/-! ## Reading from the start -/

/-- The bytes of a character are read as that character. -/
theorem chars_encodeChar (c : Char) (rest : List UInt8) :
    chars none (String.utf8EncodeChar c ++ rest) = c :: chars none rest := by
  by_cases hone : c.toNat ≤ 0x7F
  · have hbyte : (UInt8.ofNat c.toNat).toNat = c.toNat := toNat_ofNat_of_lt (by omega)
    rw [encodeChar_of_le hone, List.singleton_append, chars, feed, lead, hbyte,
      if_pos hone, Char.ofNat_toNat]
    rfl
  · obtain ⟨b, due, hleads⟩ := exists_leads (c := c) (by omega)
    rw [encodeChar_of_leads hleads, List.cons_append, chars, feed]
    rcases lead_cases b with ⟨hlow, -⟩ | ⟨p, hlead, hp, hiff⟩ | ⟨-, hnone⟩
    case inl => unfold Leads at hleads; omega
    case inr.inr => exact absurd hleads (hnone _ _)
    obtain ⟨rfl, hbegins⟩ := (hiff _ _).1 hleads
    rw [hlead, chars_continuation hp hbegins, Char.ofNat_toNat]
    rfl

/-- The first of the bytes are those of a character, or they are read as the replacement
    character. -/
theorem chars_cons (b : UInt8) (bytes : List UInt8) :
    (∃ c rest, b :: bytes = String.utf8EncodeChar c ++ rest) ∨
      ∃ piece rest, bytes = piece ++ rest ∧
        chars none (b :: bytes) = replacement :: chars none rest := by
  rw [chars, feed]
  rcases lead_cases b with ⟨hone, -⟩ | ⟨p, hlead, hp, hiff⟩ | ⟨hlead, -⟩
  · have hchar : (Char.ofNat b.toNat).toNat = b.toNat :=
      toNat_ofNat_of_isValidChar (.inl (by omega))
    exact .inl ⟨Char.ofNat b.toNat, bytes,
      by rw [encodeChar_of_le (by omega), hchar, UInt8.ofNat_toNat]; rfl⟩
  · rw [hlead]
    rcases chars_pending hp bytes with ⟨n, rest, hbegins, hbytes⟩ | hpiece
    · have hleads := (hiff _ _).2 ⟨rfl, hbegins⟩
      have hchar := toNat_ofNat_of_isValidChar hleads.isValidChar
      rw [← hchar] at hleads
      exact .inl ⟨Char.ofNat n, rest, by rw [encodeChar_of_leads hleads, hchar, hbytes]; rfl⟩
    · exact .inr hpiece
  · rw [hlead]
    exact .inr ⟨[], bytes, rfl, rfl⟩

/-- What bytes are read as, piece by piece: the bytes of a character are that character, and where
    none begins, some of the bytes are replaced. -/
inductive Reads : List UInt8 → List Char → Prop
  | nil : Reads [] []
  | char {rest : List UInt8} {cs : List Char} (c : Char) : Reads rest cs →
    Reads (String.utf8EncodeChar c ++ rest) (c :: cs)
  | replaced {piece rest : List UInt8} {cs : List Char} : piece ≠ [] →
    (∀ c, ¬ String.utf8EncodeChar c <+: piece ++ rest) → Reads rest cs →
      Reads (piece ++ rest) (replacement :: cs)

/-- Any bytes are read as the characters that they encode and as replacement characters. -/
theorem reads_chars (bytes : List UInt8) : Reads bytes (chars none bytes) := by
  induction hlength : bytes.length using Nat.strongRecOn generalizing bytes with
  | ind length ih =>
    cases bytes with
    | nil => exact .nil
    | cons b bytes =>
      rw [List.length_cons] at hlength
      by_cases hchar : ∃ c, String.utf8EncodeChar c <+: b :: bytes
      · obtain ⟨c, rest, hrest⟩ := hchar
        have hshorter := congrArg List.length hrest
        rw [List.length_append, List.length_cons, hlength] at hshorter
        have hpos : 0 < (String.utf8EncodeChar c).length :=
          List.length_pos_iff.2 String.utf8EncodeChar_ne_nil
        rw [← hrest, chars_encodeChar]
        exact .char c (ih _ (by omega) rest rfl)
      · have hnone := not_exists.1 hchar
        rcases chars_cons b bytes with ⟨c, rest, hrest⟩ | ⟨piece, rest, rfl, hread⟩
        · exact absurd ⟨rest, hrest.symm⟩ (hnone c)
        · rw [hread]
          rw [List.length_append] at hlength
          exact .replaced (List.cons_ne_nil b piece) hnone (ih _ (by omega) rest rfl)

namespace Reads

variable {bytes : List UInt8} {cs : List Char}

/-- Nothing but the bytes of a text is read without a replacement. -/
theorem eq_flatMap (h : Reads bytes cs) (hcs : replacement ∉ cs) :
    bytes = cs.flatMap String.utf8EncodeChar := by
  induction h with
  | nil => rfl
  | char c _ ih => rw [List.flatMap_cons, ← ih (List.not_mem_of_not_mem_cons hcs)]
  | replaced => exact absurd List.mem_cons_self hcs

/-- Where a NUL is read, there is one among the bytes. -/
theorem zero_mem (h : Reads bytes cs) (hcs : '\x00' ∈ cs) : 0 ∈ bytes := by
  induction h with
  | nil => cases hcs
  | char c _ ih =>
    rcases List.mem_cons.1 hcs with hc | hrest
    · exact List.mem_append_left _ (zero_mem_encodeChar_iff.2 hc.symm)
    · exact List.mem_append_right _ (ih hrest)
  | replaced _ _ _ ih =>
    rcases List.mem_cons.1 hcs with hc | hrest
    · exact absurd hc (by decide)
    · exact List.mem_append_right _ (ih hrest)

end Reads

/-! ## Texts -/

/-- The bytes of a text are read as that text. -/
theorem decodeLossy_encode (s : String) : decodeLossy (encode s) = s := by
  have hchars (cs : List Char) : chars none (cs.flatMap String.utf8EncodeChar) = cs := by
    induction cs with
    | nil => rfl
    | cons c cs ih => rw [List.flatMap_cons, chars_encodeChar, ih]
  rw [decodeLossy, encode_eq_flatMap, hchars, String.ofList_toList]

/-- What `s` keeps of `bytes`, whatever they are. -/
structure Renders (bytes : List UInt8) (s : String) : Prop where
  /-- Piece by piece, the bytes of a character are that character. -/
  reads : Reads bytes s.toList
  /-- Bytes that are UTF-8 can be had back. -/
  encode_eq : (∃ text, bytes = encode text) → encode s = bytes
  /-- Bytes that are not leave a mark. -/
  replaced : (¬ ∃ text, bytes = encode text) → replacement ∈ s.toList
  zero : 0 ∉ bytes → '\x00' ∉ s.toList

theorem decodeLossy_renders (bytes : List UInt8) : Renders bytes (decodeLossy bytes) := by
  have hreads : Reads bytes (decodeLossy bytes).toList := by
    rw [decodeLossy, String.toList_ofList]
    exact reads_chars bytes
  constructor
  case reads => exact hreads
  case encode_eq =>
    rintro ⟨text, rfl⟩
    rw [decodeLossy_encode]
  case replaced =>
    intro hnot
    by_contra hnone
    exact hnot ⟨decodeLossy bytes, by rw [encode_eq_flatMap, ← hreads.eq_flatMap hnone]⟩
  case zero => exact mt hreads.zero_mem

/-- A character that is cut short is replaced, and what follows it is kept. -/
example : decodeLossy [0x61, 0xE2, 0x82, 0x62] = "a\uFFFDb" := by decide

end PluginChain.Text.Utf8
