/-!
# UTF-8 bytes

Text that comes from outside is a list of bytes. `decode?` reads it strictly; `decodeLossy` always
reads it and puts U+FFFD, the replacement character, for each maximal run of bytes that begins a
character and does not finish it.

The lossy reader is a transducer: `Pending` is the character that the bytes so far have begun, and
`feed` takes one byte to the characters it settles and the character that is then pending.
-/

namespace PluginChain.Text.Utf8

/-- The bytes that encode `s`. -/
def encode (s : String) : List UInt8 :=
  s.toUTF8.data.toList

/-- The text that `bytes` encode, when they are well-formed UTF-8. -/
def decode? (bytes : List UInt8) : Option String :=
  String.fromUTF8? ⟨bytes.toArray⟩

theorem decode?_encode (s : String) : decode? (encode s) = some s := by
  have h : (⟨(encode s).toArray⟩ : ByteArray) = s.toUTF8 := by simp [encode]
  unfold decode?
  rw [h]
  exact dif_pos s.isValidUTF8

theorem decode?_eq_some_iff {bytes : List UInt8} {s : String} :
    decode? bytes = some s ↔ bytes = encode s := by
  constructor
  · intro h
    unfold decode? String.fromUTF8? at h
    split at h
    · obtain rfl := Option.some.inj h
      rfl
    · cases h
  · rintro rfl
    exact decode?_encode s

theorem encode_eq_flatMap (s : String) : encode s = s.toList.flatMap String.utf8EncodeChar := by
  rw [encode, String.toUTF8, ← String.utf8Encode_toList]
  simp [List.utf8Encode]

/-- Only the character NUL has a NUL among its bytes: every byte of a longer form has its highest
    bit set. -/
theorem zero_mem_encodeChar_iff {c : Char} : 0 ∈ String.utf8EncodeChar c ↔ c = '\x00' := by
  have hchar : c = '\x00' ↔ c.val.toNat = 0 := by
    rw [← Char.toNat_inj]
    rfl
  have hbyte (n : Nat) (hn : n < 256) : 0 = UInt8.ofNat n ↔ n = 0 := by
    rw [← UInt8.toNat_inj, UInt8.toNat_ofNat', Nat.mod_eq_of_lt hn]
    exact eq_comm
  rw [hchar]
  unfold String.utf8EncodeChar
  extract_lets v
  split
  · rw [List.mem_singleton, hbyte v (by omega)]
  split
  · simp only [List.mem_cons, List.not_mem_nil, or_false]
    rw [hbyte _ (by omega), hbyte _ (by omega)]
    omega
  split
  · simp only [List.mem_cons, List.not_mem_nil, or_false]
    rw [hbyte _ (by omega), hbyte _ (by omega), hbyte _ (by omega)]
    omega
  · simp only [List.mem_cons, List.not_mem_nil, or_false]
    rw [hbyte _ (by omega), hbyte _ (by omega), hbyte _ (by omega), hbyte _ (by omega)]
    omega

theorem zero_mem_encode_iff {s : String} : 0 ∈ encode s ↔ '\x00' ∈ s.toList := by
  simp [encode_eq_flatMap, zero_mem_encodeChar_iff]

/-- The replacement character. -/
def replacement : Char := '\uFFFD'

/-- A character whose first bytes have been read. -/
structure Pending where
  /-- The bits collected so far. -/
  bits : Nat
  /-- How many bytes are still due. -/
  due : Nat
  /-- The least value that the next byte may have. -/
  low : Nat := 0x80
  /-- The greatest value that the next byte may have. -/
  high : Nat := 0xBF

/-- What a byte means where a character may begin. The second byte of a three- or four-byte
    character has a narrower range after the leads that could otherwise encode a character too long,
    a surrogate, or a code point past U+10FFFF. -/
def lead (b : UInt8) : List Char × Option Pending :=
  let n := b.toNat
  if n ≤ 0x7F then ([Char.ofNat n], none)
  else if 0xC2 ≤ n ∧ n ≤ 0xDF then ([], some { bits := n - 0xC0, due := 1 })
  else if n = 0xE0 then ([], some { bits := 0, due := 2, low := 0xA0 })
  else if n = 0xED then ([], some { bits := 0xD, due := 2, high := 0x9F })
  else if 0xE1 ≤ n ∧ n ≤ 0xEF then ([], some { bits := n - 0xE0, due := 2 })
  else if n = 0xF0 then ([], some { bits := 0, due := 3, low := 0x90 })
  else if 0xF1 ≤ n ∧ n ≤ 0xF3 then ([], some { bits := n - 0xF0, due := 3 })
  else if n = 0xF4 then ([], some { bits := 4, due := 3, high := 0x8F })
  else ([replacement], none)

/-- The characters that one more byte settles, and what is pending after it. A byte that does not
    continue the pending character turns it into one replacement character and is read as a lead. -/
def feed (pending : Option Pending) (b : UInt8) : List Char × Option Pending :=
  match pending with
  | none => lead b
  | some p =>
    if p.low ≤ b.toNat ∧ b.toNat ≤ p.high then
      let bits := p.bits * 64 + (b.toNat - 0x80)
      if p.due ≤ 1 then ([Char.ofNat bits], none) else ([], some { bits, due := p.due - 1 })
    else
      (replacement :: (lead b).1, (lead b).2)

/-- The characters of `bytes` after what is pending. -/
def chars (pending : Option Pending) : List UInt8 → List Char
  | [] => if pending.isSome then [replacement] else []
  | b :: rest => (feed pending b).1 ++ chars (feed pending b).2 rest

/-- The text of `bytes`, with U+FFFD for what is not UTF-8. -/
def decodeLossy (bytes : List UInt8) : String :=
  String.ofList (chars none bytes)

end PluginChain.Text.Utf8
