import PluginChain.Text.Utf8

/-!
# NUL-terminated text

Text that crosses into the plugin ends at the first NUL byte. So a text with a NUL in it cannot be
handed over, and of the bytes that the plugin's pointer leads to only those before the first NUL are
read.
-/

namespace PluginChain.Text.Terminated

/-- The bytes to hand over, without the terminator, or the byte position of the NUL that stands in
    the way. -/
def encode (s : String) : Except Nat (List UInt8) :=
  match (Utf8.encode s).findIdx? (· == 0) with
  | some position => .error position
  | none => .ok (Utf8.encode s)

/-- The text in memory that begins with `bytes`. -/
def decode (bytes : List UInt8) : String :=
  Utf8.decodeLossy (bytes.takeWhile (· != 0))

theorem encode_eq_ok_iff {s : String} {bytes : List UInt8} :
    encode s = .ok bytes ↔ bytes = Utf8.encode s ∧ 0 ∉ bytes := by
  unfold encode
  split
  · rename_i position h
    constructor
    · simp
    · rintro ⟨rfl, h0⟩
      obtain ⟨hlt, hz, -⟩ := List.findIdx?_eq_some_iff_getElem.1 h
      exact absurd (eq_of_beq hz ▸ List.getElem_mem hlt) h0
  · rename_i h
    simp only [List.findIdx?_eq_none_iff] at h
    constructor
    · rintro ⟨⟩
      exact ⟨rfl, fun h0 => by simpa using h 0 h0⟩
    · rintro ⟨rfl, -⟩
      rfl

/-- The first NUL stands in the way. -/
theorem encode_eq_error {s : String} {before after : List UInt8}
    (h : Utf8.encode s = before ++ 0 :: after) (hfirst : 0 ∉ before) :
    encode s = .error before.length := by
  have hnone : before.findIdx? (· == 0) = none := by
    simp only [List.findIdx?_eq_none_iff, beq_eq_false_iff_ne, ne_eq]
    exact fun b hb hz => hfirst (hz ▸ hb)
  have hfind : (Utf8.encode s).findIdx? (· == 0) = some before.length := by
    rw [h, List.findIdx?_append, hnone]
    simp [List.findIdx?_cons]
  rw [encode, hfind]

end PluginChain.Text.Terminated
