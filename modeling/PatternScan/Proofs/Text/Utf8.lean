import PatternScan.Text.Utf8

namespace PatternScan.Text.Utf8

def encode (chars : List Char) : List UInt8 := chars.flatMap String.utf8EncodeChar

deriving instance DecidableEq for Shape

theorem isContinuation_trail : ∀ m < 64, isContinuation (UInt8.ofNat (m + 0x80)) = true := by
  decide

theorem payload_trail : ∀ m < 64, payload (UInt8.ofNat (m + 0x80)) = m := by
  decide

theorem trail_between {low m high : Nat} (hl : low ≤ m) (hm : m ≤ high) (hh : high < 64) :
    (UInt8.ofNat (low + 0x80) ≤ UInt8.ofNat (m + 0x80) &&
      UInt8.ofNat (m + 0x80) ≤ UInt8.ofNat (high + 0x80)) = true := by
  simp only [Bool.and_eq_true, decide_eq_true_eq, UInt8.le_iff_toNat_le, UInt8.toNat_ofNat']
  omega

theorem ofLead?_two : ∀ m < 32, 2 ≤ m →
    Shape.ofLead? (UInt8.ofNat (m + 0xC0)) =
      some ⟨1, UInt8.ofNat (0 + 0x80), UInt8.ofNat (63 + 0x80)⟩ := by
  decide

/-- Overlong forms begin with `E0`, surrogates with `ED`. -/
theorem ofLead?_three : ∀ m < 16,
    Shape.ofLead? (UInt8.ofNat (m + 0xE0)) =
      some ⟨2, UInt8.ofNat ((if m = 0 then 32 else 0) + 0x80),
        UInt8.ofNat ((if m = 13 then 31 else 63) + 0x80)⟩ := by
  decide

/-- Overlong forms begin with `F0`, values above U+10FFFF with `F4`. -/
theorem ofLead?_four : ∀ m < 5,
    Shape.ofLead? (UInt8.ofNat (m + 0xF0)) =
      some ⟨3, UInt8.ofNat ((if m = 0 then 16 else 0) + 0x80),
        UInt8.ofNat ((if m = 4 then 15 else 63) + 0x80)⟩ := by
  decide

theorem continuations_trail {next : Nat → Option UInt8} {m seen : Nat} (value left : Nat)
    (hm : m < 64) (hn : next seen = some (UInt8.ofNat (m + 0x80))) :
    continuations next value seen (left + 1) =
      continuations next (value * 64 + m) (seen + 1) left := by
  rw [continuations, hn]
  simp only [isContinuation_trail m hm, payload_trail m hm, if_true]

theorem headAfter_lead {lead : UInt8} {next : Nat → Option UInt8} {followers low m high : Nat}
    (hlead : 0x80 ≤ lead.toNat)
    (hs : Shape.ofLead? lead =
      some ⟨followers, UInt8.ofNat (low + 0x80), UInt8.ofNat (high + 0x80)⟩)
    (hl : low ≤ m) (hm : m ≤ high) (hh : high < 64)
    (hn : next 1 = some (UInt8.ofNat (m + 0x80))) :
    headAfter lead next =
      continuations next (lead.toNat % Nat.pow 2 (6 - followers) * 64 + m) 2 (followers - 1) := by
  have hascii : ¬ lead < 0x80 := by
    rw [UInt8.lt_iff_toNat_lt]
    exact Nat.not_lt.mpr hlead
  have hb := trail_between hl hm hh
  have hp := payload_trail m (by omega)
  simp only [headAfter, hascii, if_false, hs, hn, hb, hp, if_true]

theorem headsAfter_append (skipped tail : List UInt8) :
    headsAfter skipped.length (skipped ++ tail) = heads tail := by
  induction skipped with
  | nil => rfl
  | cons b rest ih => exact ih

/-- A character at the head of a byte sequence is split off with all its trailing bytes. -/
theorem heads_cons {lead : UInt8} {trail tail : List UInt8} {c : Char}
    (h : headAfter lead (fun i => (trail ++ tail)[i - 1]?) = .scalar c (trail.length + 1)) :
    heads (lead :: trail ++ tail) = .scalar c (trail.length + 1) :: heads tail := by
  rw [heads, List.cons_append, headsAfter, h]
  exact congrArg (_ :: ·) (headsAfter_append trail tail)

variable (c : Char) (tail : List UInt8)

theorem heads_one_byte (h : c.toNat ≤ 0x7F) :
    heads (String.utf8EncodeChar c ++ tail) = .scalar c 1 :: heads tail := by
  have he : String.utf8EncodeChar c = [UInt8.ofNat c.toNat] := if_pos h
  have hn : (UInt8.ofNat c.toNat).toNat = c.toNat := by
    rw [UInt8.toNat_ofNat']
    omega
  have hascii : UInt8.ofNat c.toNat < 0x80 := by
    rw [UInt8.lt_iff_toNat_lt, hn]
    exact Nat.lt_succ_of_le h
  rw [he]
  apply heads_cons
  simp only [headAfter, hascii, if_true, hn, Char.ofNat_toNat, List.length_nil]

theorem heads_two_bytes (h : 0x7F < c.toNat) (h' : c.toNat ≤ 0x7FF) :
    heads (String.utf8EncodeChar c ++ tail) = .scalar c 2 :: heads tail := by
  have he : String.utf8EncodeChar c =
      [UInt8.ofNat (c.toNat / 64 % 32 + 0xC0), UInt8.ofNat (c.toNat % 64 + 0x80)] :=
    (if_neg (Nat.not_le.mpr h)).trans (if_pos h')
  rw [he]
  apply heads_cons
  rw [headAfter_lead (m := c.toNat % 64) (by rw [UInt8.toNat_ofNat']; omega)
    (ofLead?_two _ (by omega) (by omega)) (by omega) (by omega) (by omega) rfl, continuations]
  have hv : (UInt8.ofNat (c.toNat / 64 % 32 + 0xC0)).toNat % Nat.pow 2 (6 - 1) * 64 +
      c.toNat % 64 = c.toNat := by
    rw [UInt8.toNat_ofNat', show Nat.pow 2 (6 - 1) = 32 from rfl]
    omega
  rw [hv, Char.ofNat_toNat]
  rfl

theorem heads_three_bytes (h : 0x7FF < c.toNat) (h' : c.toNat ≤ 0xFFFF) :
    heads (String.utf8EncodeChar c ++ tail) = .scalar c 3 :: heads tail := by
  have hvalid : c.toNat < 0xD800 ∨ 0xDFFF < c.toNat ∧ c.toNat < 0x110000 := c.valid
  have he : String.utf8EncodeChar c =
      [UInt8.ofNat (c.toNat / 4096 % 16 + 0xE0), UInt8.ofNat (c.toNat / 64 % 64 + 0x80),
        UInt8.ofNat (c.toNat % 64 + 0x80)] :=
    (if_neg (by change ¬ c.toNat ≤ 0x7F; omega)).trans
      ((if_neg (Nat.not_le.mpr h)).trans (if_pos h'))
  rw [he]
  apply heads_cons
  rw [headAfter_lead (m := c.toNat / 64 % 64) (by rw [UInt8.toNat_ofNat']; omega)
    (ofLead?_three _ (by omega)) (by split <;> omega) (by split <;> omega) (by split <;> omega) rfl,
    continuations_trail _ 0 (Nat.mod_lt c.toNat (by decide)) rfl, continuations]
  have hv : ((UInt8.ofNat (c.toNat / 4096 % 16 + 0xE0)).toNat % Nat.pow 2 (6 - 2) * 64 +
      c.toNat / 64 % 64) * 64 + c.toNat % 64 = c.toNat := by
    rw [UInt8.toNat_ofNat', show Nat.pow 2 (6 - 2) = 16 from rfl]
    omega
  rw [hv, Char.ofNat_toNat]
  rfl

theorem heads_four_bytes (h : 0xFFFF < c.toNat) :
    heads (String.utf8EncodeChar c ++ tail) = .scalar c 4 :: heads tail := by
  have hvalid : c.toNat < 0xD800 ∨ 0xDFFF < c.toNat ∧ c.toNat < 0x110000 := c.valid
  have he : String.utf8EncodeChar c =
      [UInt8.ofNat (c.toNat / 262144 % 8 + 0xF0), UInt8.ofNat (c.toNat / 4096 % 64 + 0x80),
        UInt8.ofNat (c.toNat / 64 % 64 + 0x80), UInt8.ofNat (c.toNat % 64 + 0x80)] :=
    (if_neg (by change ¬ c.toNat ≤ 0x7F; omega)).trans
      ((if_neg (by change ¬ c.toNat ≤ 0x7FF; omega)).trans (if_neg (Nat.not_le.mpr h)))
  rw [he]
  apply heads_cons
  rw [headAfter_lead (m := c.toNat / 4096 % 64) (by rw [UInt8.toNat_ofNat']; omega)
    (ofLead?_four _ (by omega)) (by split <;> omega) (by split <;> omega) (by split <;> omega) rfl,
    continuations_trail _ 1 (Nat.mod_lt (c.toNat / 64) (by decide)) rfl,
    continuations_trail _ 0 (Nat.mod_lt c.toNat (by decide)) rfl, continuations]
  have hv : (((UInt8.ofNat (c.toNat / 262144 % 8 + 0xF0)).toNat % Nat.pow 2 (6 - 3) * 64 +
      c.toNat / 4096 % 64) * 64 + c.toNat / 64 % 64) * 64 + c.toNat % 64 = c.toNat := by
    rw [UInt8.toNat_ofNat', show Nat.pow 2 (6 - 3) = 8 from rfl]
    omega
  rw [hv, Char.ofNat_toNat]
  rfl

theorem heads_utf8EncodeChar :
    ∃ n, heads (String.utf8EncodeChar c ++ tail) = .scalar c n :: heads tail := by
  rcases Nat.lt_or_ge 0x7F c.toNat with h1 | h1
  · rcases Nat.lt_or_ge 0x7FF c.toNat with h2 | h2
    · rcases Nat.lt_or_ge 0xFFFF c.toNat with h3 | h3
      · exact ⟨4, heads_four_bytes c tail h3⟩
      · exact ⟨3, heads_three_bytes c tail h2 h3⟩
    · exact ⟨2, heads_two_bytes c tail h1 h2⟩
  · exact ⟨1, heads_one_byte c tail h1⟩

omit c tail

theorem charsOfHeads_encode (chars : List Char) (position : Nat) :
    charsOfHeads position (heads (encode chars)) = .ok chars := by
  induction chars generalizing position with
  | nil => rfl
  | cons c rest ih =>
    obtain ⟨n, hn⟩ := heads_utf8EncodeChar c (encode rest)
    rw [encode, List.flatMap_cons, ← encode, hn, charsOfHeads, ih]
    rfl

/-- Whatever was encoded is valid, and is read as the text that was encoded. -/
theorem validate_encode (chars : List Char) :
    validate (encode chars) = .ok (String.ofList chars) := by
  rw [validate, charsOfHeads_encode]
  rfl

theorem lossy_encode (chars : List Char) : lossy (encode chars) = String.ofList chars := by
  rw [lossy]
  induction chars with
  | nil => rfl
  | cons c rest ih =>
    obtain ⟨n, hn⟩ := heads_utf8EncodeChar c (encode rest)
    have ht := String.ofList_inj.mp ih
    rw [encode, List.flatMap_cons, ← encode, hn, List.map_cons, ht]
    rfl

theorem toList_loop (bytes : ByteArray) (i : Nat) (done : List UInt8) :
    ByteArray.toList.loop bytes i done = done.reverse ++ bytes.data.toList.drop i := by
  fun_induction ByteArray.toList.loop bytes i done with
  | case1 i done hi ih =>
    have hd : bytes.data.toList.drop i = bytes.get! i :: bytes.data.toList.drop (i + 1) := by
      rw [List.drop_eq_getElem_cons (i := i) hi]
      exact congrArg (· :: _) (getElem!_pos bytes.data i hi).symm
    rw [ih, hd, List.reverse_cons, List.append_assoc, List.singleton_append]
  | case2 i done hi =>
    rw [List.drop_of_length_le (by simpa using hi), List.append_nil]

theorem toList_toUTF8 (s : String) : s.toUTF8.toList = encode s.toList := by
  have hb : s.toUTF8 = (encode s.toList).toByteArray := String.utf8Encode_toList.symm
  rw [ByteArray.toList, toList_loop, hb, List.toList_data_toByteArray]
  rfl

/-- A failure's account survives the way through its bytes. -/
theorem lossy_toUTF8 (s : String) : lossy s.toUTF8.toList = s := by
  rw [toList_toUTF8, lossy_encode, String.ofList_toList]

end PatternScan.Text.Utf8
