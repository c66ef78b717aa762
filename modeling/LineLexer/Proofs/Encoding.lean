import LineLexer.Text.Utf8

set_option autoImplicit false

namespace LineLexer.Utf8

theorem toNat_ofNat (n : Nat) (small : n < 256) : (UInt8.ofNat n).toNat = n :=
  Nat.mod_eq_of_lt small

theorem decodeFrom_ascii (offset n : Nat) (ascii : n < 0x80) (rest : Bytes) :
    decodeFrom offset none (UInt8.ofNat n :: rest) =
      (decodeFrom (offset + 1) none rest).map (Char.ofNat n :: ·) := by
  have value := toNat_ofNat n (by omega)
  have low : UInt8.ofNat n < 0x80 := by
    rw [UInt8.lt_iff_toNat_lt, value]
    exact ascii
  rw [decodeFrom, if_pos low, value]

theorem decodeFrom_lead (offset : Nat) (lead : UInt8) (high : 0x80 ≤ lead) (pending : Pending)
    (found : Pending.ofLead? lead offset = some pending) (rest : Bytes) :
    decodeFrom offset none (lead :: rest) = decodeFrom (offset + 1) (some pending) rest := by
  rw [decodeFrom, if_neg (UInt8.not_lt.mpr high), found]

def Pending.next (pending : Pending) (n : Nat) : Pending :=
  { pending with owed := pending.owed - 1, low := 0x80, high := 0xBF
                 value := pending.value * 0x40 + n }

def Pending.Admits (pending : Pending) (n : Nat) : Prop :=
  n < 0x40 ∧ pending.low.toNat ≤ n + 0x80 ∧ n + 0x80 ≤ pending.high.toNat

theorem decodeFrom_continuation (offset : Nat) (pending : Pending) (n : Nat)
    (admitted : pending.Admits n) (rest : Bytes) :
    decodeFrom offset (some pending) (UInt8.ofNat (n + 0x80) :: rest) =
      if (pending.next n).owed = 0 then
        (decodeFrom (offset + 1) none rest).map (Char.ofNat (pending.next n).value :: ·)
      else decodeFrom (offset + 1) (some (pending.next n)) rest := by
  obtain ⟨small, low, high⟩ := admitted
  have value := toNat_ofNat (n + 0x80) (by omega)
  have within : pending.low ≤ UInt8.ofNat (n + 0x80) ∧ UInt8.ofNat (n + 0x80) ≤ pending.high := by
    rw [UInt8.le_iff_toNat_le, UInt8.le_iff_toNat_le, value]
    exact ⟨low, high⟩
  have accepted : pending.accept (UInt8.ofNat (n + 0x80)) = pending.next n := by
    have bits : (n + 0x80) % 0x40 = n := by omega
    rw [Pending.accept, value, bits]
    rfl
  rw [decodeFrom, if_pos within, accepted]

theorem decodeFrom_inner (offset : Nat) (pending : Pending) (n : Nat)
    (owed : 1 < pending.owed) (admitted : pending.Admits n) (rest : Bytes) :
    decodeFrom offset (some pending) (UInt8.ofNat (n + 0x80) :: rest) =
      decodeFrom (offset + 1) (some (pending.next n)) rest := by
  have more : (pending.next n).owed ≠ 0 := Nat.sub_ne_zero_of_lt owed
  rw [decodeFrom_continuation offset pending n admitted, if_neg more]

theorem decodeFrom_last (offset : Nat) (pending : Pending) (n : Nat)
    (owed : pending.owed = 1) (admitted : pending.Admits n) (rest : Bytes) :
    decodeFrom offset (some pending) (UInt8.ofNat (n + 0x80) :: rest) =
      (decodeFrom (offset + 1) none rest).map (Char.ofNat (pending.next n).value :: ·) := by
  have complete : (pending.next n).owed = 0 := by simp [Pending.next, owed]
  rw [decodeFrom_continuation offset pending n admitted, if_pos complete]

-- Only the second byte of a character may be bounded more narrowly.
theorem Pending.next_admits (pending : Pending) (first n : Nat) (small : n < 0x40) :
    (pending.next first).Admits n := by
  simp only [Admits, next, UInt8.reduceToNat]
  omega

theorem ofLead?_toNat (lead : UInt8) (offset : Nat) :
    Pending.ofLead? lead offset =
      if 0xC2 ≤ lead.toNat ∧ lead.toNat ≤ 0xDF then
        some { lead, start := offset, owed := 1, low := 0x80, high := 0xBF
               value := lead.toNat % 0x20 }
      else if 0xE0 ≤ lead.toNat ∧ lead.toNat ≤ 0xEF then
        some { lead, start := offset, owed := 2, low := if lead.toNat = 0xE0 then 0xA0 else 0x80
               high := if lead.toNat = 0xED then 0x9F else 0xBF, value := lead.toNat % 0x10 }
      else if 0xF0 ≤ lead.toNat ∧ lead.toNat ≤ 0xF4 then
        some { lead, start := offset, owed := 3, low := if lead.toNat = 0xF0 then 0x90 else 0x80
               high := if lead.toNat = 0xF4 then 0x8F else 0xBF, value := lead.toNat % 8 }
      else none := by
  simp only [Pending.ofLead?, UInt8.le_iff_toNat_le, ← UInt8.toNat_inj, UInt8.reduceToNat]

theorem ofLead?_two (offset n : Nat) (low : 2 ≤ n) (high : n < 0x20) :
    Pending.ofLead? (UInt8.ofNat (n + 0xC0)) offset =
      some { lead := UInt8.ofNat (n + 0xC0), start := offset, owed := 1, low := 0x80, high := 0xBF
             value := n } := by
  have bits : (n + 0xC0) % 0x20 = n := by omega
  rw [ofLead?_toNat, toNat_ofNat (n + 0xC0) (by omega), if_pos (by omega), bits]

theorem ofLead?_three (offset n : Nat) (high : n < 0x10) :
    Pending.ofLead? (UInt8.ofNat (n + 0xE0)) offset =
      some { lead := UInt8.ofNat (n + 0xE0), start := offset, owed := 2
             low := if n = 0 then 0xA0 else 0x80, high := if n = 0xD then 0x9F else 0xBF
             value := n } := by
  have bits : (n + 0xE0) % 0x10 = n := by omega
  have first : n + 0xE0 = 0xE0 ↔ n = 0 := by omega
  have surrogates : n + 0xE0 = 0xED ↔ n = 0xD := by omega
  rw [ofLead?_toNat, toNat_ofNat (n + 0xE0) (by omega), if_neg (by omega), if_pos (by omega), bits]
  simp only [first, surrogates]

theorem ofLead?_four (offset n : Nat) (high : n ≤ 4) :
    Pending.ofLead? (UInt8.ofNat (n + 0xF0)) offset =
      some { lead := UInt8.ofNat (n + 0xF0), start := offset, owed := 3
             low := if n = 0 then 0x90 else 0x80, high := if n = 4 then 0x8F else 0xBF
             value := n } := by
  have bits : (n + 0xF0) % 8 = n := by omega
  have first : n + 0xF0 = 0xF0 ↔ n = 0 := by omega
  have last : n + 0xF0 = 0xF4 ↔ n = 4 := by omega
  rw [ofLead?_toNat, toNat_ofNat (n + 0xF0) (by omega), if_neg (by omega), if_neg (by omega),
    if_pos (by omega), bits]
  simp only [first, last]

theorem lead_high (n bits : Nat) (large : 0x80 ≤ bits) (small : n + bits < 256) :
    0x80 ≤ UInt8.ofNat (n + bits) := by
  rw [UInt8.le_iff_toNat_le, toNat_ofNat (n + bits) small]
  exact Nat.le_trans large (Nat.le_add_left bits n)

variable (offset v : Nat) (rest : Bytes)

theorem decodeFrom_two (low : 0x80 ≤ v) (high : v < 0x800) :
    decodeFrom offset none
        (UInt8.ofNat (v / 64 % 0x20 + 0xC0) :: UInt8.ofNat (v % 0x40 + 0x80) :: rest) =
      (decodeFrom (offset + 2) none rest).map (Char.ofNat v :: ·) := by
  have whole : v / 64 % 0x20 * 0x40 + v % 0x40 = v := by omega
  have lead := ofLead?_two offset (v / 64 % 0x20) (by omega) (by omega)
  rw [decodeFrom_lead _ _ (lead_high _ _ (by omega) (by omega)) _ lead,
    decodeFrom_last _ _ _ rfl]
  · simp only [Pending.next, whole]
  · simp only [Pending.Admits, UInt8.reduceToNat]
    omega

theorem decodeFrom_three (low : 0x800 ≤ v) (high : v < 0x10000)
    (noSurrogate : v < 0xD800 ∨ 0xDFFF < v) :
    decodeFrom offset none
        (UInt8.ofNat (v / 4096 % 0x10 + 0xE0) :: UInt8.ofNat (v / 64 % 0x40 + 0x80) ::
          UInt8.ofNat (v % 0x40 + 0x80) :: rest) =
      (decodeFrom (offset + 3) none rest).map (Char.ofNat v :: ·) := by
  have whole : (v / 4096 % 0x10 * 0x40 + v / 64 % 0x40) * 0x40 + v % 0x40 = v := by omega
  have lead := ofLead?_three offset (v / 4096 % 0x10) (by omega)
  rw [decodeFrom_lead _ _ (lead_high _ _ (by omega) (by omega)) _ lead,
    decodeFrom_inner _ _ _ (by simp), decodeFrom_last _ _ _ rfl]
  · simp only [Pending.next, whole]
  · exact Pending.next_admits _ _ _ (by omega)
  · refine ⟨by omega, ?_⟩
    dsimp only
    constructor <;> split <;> simp only [UInt8.reduceToNat] <;> omega

theorem decodeFrom_four (low : 0x10000 ≤ v) (high : v < 0x110000) :
    decodeFrom offset none
        (UInt8.ofNat (v / 262144 % 8 + 0xF0) :: UInt8.ofNat (v / 4096 % 0x40 + 0x80) ::
          UInt8.ofNat (v / 64 % 0x40 + 0x80) :: UInt8.ofNat (v % 0x40 + 0x80) :: rest) =
      (decodeFrom (offset + 4) none rest).map (Char.ofNat v :: ·) := by
  have whole : ((v / 262144 % 8 * 0x40 + v / 4096 % 0x40) * 0x40 + v / 64 % 0x40) * 0x40 +
      v % 0x40 = v := by omega
  have lead := ofLead?_four offset (v / 262144 % 8) (by omega)
  rw [decodeFrom_lead _ _ (lead_high _ _ (by omega) (by omega)) _ lead,
    decodeFrom_inner _ _ _ (by simp), decodeFrom_inner _ _ _ (by simp [Pending.next]),
    decodeFrom_last _ _ _ rfl]
  · simp only [Pending.next, whole]
  · exact Pending.next_admits _ _ _ (by omega)
  · exact Pending.next_admits _ _ _ (by omega)
  · refine ⟨by omega, ?_⟩
    dsimp only
    constructor <;> split <;> simp only [UInt8.reduceToNat] <;> omega

theorem decodeFrom_char (c : Char) :
    decodeFrom offset none (String.utf8EncodeChar c ++ rest) =
      (decodeFrom (offset + (String.utf8EncodeChar c).length) none rest).map (c :: ·) := by
  have back : Char.ofNat c.val.toNat = c := Char.ofNat_toNat c
  have valid : c.val.toNat < 0xD800 ∨ 0xDFFF < c.val.toNat ∧ c.val.toNat < 0x110000 := c.valid
  unfold String.utf8EncodeChar
  generalize c.val.toNat = v at back valid
  subst back
  dsimp only
  split
  next ascii => exact decodeFrom_ascii offset v (by omega) rest
  next =>
  split
  next => exact decodeFrom_two offset v rest (by omega) (by omega)
  next =>
  split
  next => exact decodeFrom_three offset v rest (by omega) (by omega) (by omega)
  next => exact decodeFrom_four offset v rest (by omega) (by omega)

theorem decode_utf8 (text : Text) : decode text.utf8 = .ok text := by
  have all (offset : Nat) : decodeFrom offset none text.utf8 = .ok text := by
    induction text generalizing offset with
    | nil => rfl
    | cons c rest ih =>
      have read := decodeFrom_char offset (Text.utf8 rest) c
      rw [ih] at read
      exact read
  exact all 0

end LineLexer.Utf8
