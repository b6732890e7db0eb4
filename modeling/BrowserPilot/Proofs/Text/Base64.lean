import BrowserPilot.Proofs.Text.Bytes
import BrowserPilot.Text.Base64

namespace BrowserPilot.Text.Base64

/-!
# Base64 texts are read back

What is written is read back as it was: each character of the alphabet tells its six
bits, and the padding tells how many bytes the last group has.
-/

/-- The code of a character of the written form. -/
def code (c : Char) : UInt8 := UInt8.ofNat c.toNat

theorem value?_code_symbol : ∀ n < 64, value? (code (symbol n)).toNat = some n := by
  decide

theorem code_symbol_ne_pad : ∀ n < 64, code (symbol n) ≠ pad := by
  decide

theorem bits_code_symbol {n : Nat} (hn : n < 64) (offset : Nat) :
    bits offset (code (symbol n)) = .ok n := by
  simp only [bits, value?_code_symbol n hn]

/-- What the last group shows of some symbols at its beginning. -/
def shown (ns : List Nat) : List (UInt8 × Nat) := ns.map fun n ↦ (code (symbol n), n)

theorem readLast_append (start : Nat) (ns : List Nat) (hns : ∀ n ∈ ns, n < 64) (rest : List UInt8)
    (i : Nat) (before : List (UInt8 × Nat)) :
    readLast start i { symbols := before } (ns.map (code ∘ symbol) ++ rest) =
      readLast start (i + ns.length) { symbols := before ++ shown ns } rest := by
  induction ns generalizing i before with
  | nil => simp [shown]
  | cons n ns ih =>
      have hn : n < 64 := hns n List.mem_cons_self
      have hstep : readLast start i { symbols := before }
          (code (symbol n) :: (ns.map (code ∘ symbol) ++ rest)) =
          readLast start (i + 1) { symbols := before ++ [(code (symbol n), n)] }
            (ns.map (code ∘ symbol) ++ rest) := by
        simp [readLast, code_symbol_ne_pad n hn, bits_code_symbol hn, bind, Except.bind]
      have hrest := ih (fun m hm ↦ hns m (List.mem_cons_of_mem n hm)) (i + 1)
        (before ++ [(code (symbol n), n)])
      rw [List.map_cons, List.cons_append]
      refine (hstep.trans hrest).trans ?_
      rw [List.length_cons, Nat.add_assoc, Nat.add_comm 1, List.append_assoc]
      rfl

/-! ## The last group -/

section

variable (start : Nat) {k l m n : Nat} (hk : k < 64) (hl : l < 64) (hm : m < 64) (hn : n < 64)
include hk hl

theorem decodeLast_two (h : l % 16 = 0) :
    decodeLast start [code (symbol k), code (symbol l), pad, pad] =
      .ok [UInt8.ofNat (k * 4 + l / 16)] := by
  have hread := readLast_append start [k, l] (by simp [hk, hl]) [pad, pad] 0 []
  have hpads : readLast start (0 + [k, l].length) { symbols := [] ++ shown [k, l] } [pad, pad] =
      .ok ⟨shown [k, l], 2, 2⟩ := rfl
  have hgroup : readLast start 0 {} [code (symbol k), code (symbol l), pad, pad] =
      .ok ⟨shown [k, l], 2, 2⟩ := hread.trans hpads
  simp [decodeLast, hgroup, shown, bind, Except.bind, h, pure, Except.pure]

include hm

theorem decodeLast_three (h : m % 4 = 0) :
    decodeLast start [code (symbol k), code (symbol l), code (symbol m), pad] =
      .ok [UInt8.ofNat (k * 4 + l / 16), UInt8.ofNat (l % 16 * 16 + m / 4)] := by
  have hread := readLast_append start [k, l, m] (by simp [hk, hl, hm]) [pad] 0 []
  have hpads : readLast start (0 + [k, l, m].length) { symbols := [] ++ shown [k, l, m] } [pad] =
      .ok ⟨shown [k, l, m], 3, 1⟩ := rfl
  have hgroup : readLast start 0 {} [code (symbol k), code (symbol l), code (symbol m), pad] =
      .ok ⟨shown [k, l, m], 3, 1⟩ := hread.trans hpads
  simp [decodeLast, hgroup, shown, bind, Except.bind, h, pure, Except.pure]

include hn

theorem decodeLast_four :
    decodeLast start [code (symbol k), code (symbol l), code (symbol m), code (symbol n)] =
      .ok [UInt8.ofNat (k * 4 + l / 16), UInt8.ofNat (l % 16 * 16 + m / 4),
        UInt8.ofNat (m % 4 * 64 + n)] := by
  have hread := readLast_append start [k, l, m, n] (by simp [hk, hl, hm, hn]) [] 0 []
  have hgroup : readLast start 0 {}
      [code (symbol k), code (symbol l), code (symbol m), code (symbol n)] =
      .ok ⟨shown [k, l, m, n], 0, 0⟩ := hread
  simp [decodeLast, hgroup, shown, bind, Except.bind, pure, Except.pure]

/-- A group that is not the last. -/
theorem decodeFrom_group {rest tail : List UInt8} (hrest : rest ≠ [])
    (h : decodeFrom (start + 4) rest = .ok tail) :
    decodeFrom start
      (code (symbol k) :: code (symbol l) :: code (symbol m) :: code (symbol n) :: rest) =
      .ok (UInt8.ofNat (k * 4 + l / 16) :: UInt8.ofNat (l % 16 * 16 + m / 4) ::
        UInt8.ofNat (m % 4 * 64 + n) :: tail) := by
  obtain ⟨e, rest, rfl⟩ := List.exists_cons_of_ne_nil hrest
  simp only [decodeFrom, bits_code_symbol hk, bits_code_symbol hl, bits_code_symbol hm,
    bits_code_symbol hn, h]
  rfl

end

/-! ## All groups -/

theorem encodeChars_ne_nil {bytes : List UInt8} (h : bytes ≠ []) : encodeChars bytes ≠ [] := by
  obtain _ | ⟨a, _ | ⟨b, _ | ⟨c, rest⟩⟩⟩ := bytes <;> simp [encodeChars] at h ⊢

theorem decodeFrom_encodeChars (bytes : List UInt8) (start : Nat) :
    decodeFrom start ((encodeChars bytes).map code) = .ok bytes := by
  induction bytes using encodeChars.induct generalizing start with
  | case1 => rfl
  | case2 a =>
      have ha := a.toNat_lt
      have hsymbols : a.toNat * 16 / 64 < 64 ∧ a.toNat * 16 % 64 < 64 := by omega
      have hlast := decodeLast_two start hsymbols.1 hsymbols.2 (by omega)
      have hbyte : a.toNat * 16 / 64 * 4 + a.toNat * 16 % 64 / 16 = a.toNat := by omega
      rw [hbyte, UInt8.ofNat_toNat] at hlast
      exact hlast
  | case3 a b =>
      have ha := a.toNat_lt
      have hb := b.toNat_lt
      generalize hnumber : (a.toNat * 256 + b.toNat) * 4 = number
      have hsymbols : number / 4096 < 64 ∧ number / 64 % 64 < 64 ∧ number % 64 < 64 := by omega
      obtain ⟨hk, hl, hm⟩ := hsymbols
      have hlast := decodeLast_three start hk hl hm (by omega)
      have hfirst : number / 4096 * 4 + number / 64 % 64 / 16 = a.toNat := by omega
      have hsecond : number / 64 % 64 % 16 * 16 + number % 64 / 4 = b.toNat := by omega
      rw [hfirst, hsecond, UInt8.ofNat_toNat, UInt8.ofNat_toNat] at hlast
      simp only [encodeChars, hnumber]
      exact hlast
  | case4 a b c rest ih =>
      have ha := a.toNat_lt
      have hb := b.toNat_lt
      have hc := c.toNat_lt
      generalize hnumber : (a.toNat * 256 + b.toNat) * 256 + c.toNat = number
      have hsymbols : number / 262144 < 64 ∧ number / 4096 % 64 < 64 ∧ number / 64 % 64 < 64 ∧
          number % 64 < 64 := by omega
      obtain ⟨hk, hl, hm, hn⟩ := hsymbols
      have hfirst : number / 262144 * 4 + number / 4096 % 64 / 16 = a.toNat := by omega
      have hsecond : number / 4096 % 64 % 16 * 16 + number / 64 % 64 / 4 = b.toNat := by omega
      have hthird : number / 64 % 64 % 4 * 64 + number % 64 = c.toNat := by omega
      -- the last group is read apart, since it may hold padding
      by_cases hrest : rest = []
      · subst hrest
        have hlast := decodeLast_four start hk hl hm hn
        rw [hfirst, hsecond, hthird, UInt8.ofNat_toNat, UInt8.ofNat_toNat,
          UInt8.ofNat_toNat] at hlast
        simp only [encodeChars, hnumber]
        exact hlast
      · have hne : (encodeChars rest).map code ≠ [] := by
          simpa using encodeChars_ne_nil hrest
        have hgroup := decodeFrom_group start hk hl hm hn hne (ih (start + 4))
        rw [hfirst, hsecond, hthird, UInt8.ofNat_toNat, UInt8.ofNat_toNat,
          UInt8.ofNat_toNat] at hgroup
        simp only [encodeChars, hnumber]
        exact hgroup

/-- Each group of three bytes, whole or not, is four characters. -/
theorem length_encodeChars (bytes : List UInt8) :
    (encodeChars bytes).length = 4 * ((bytes.length + 2) / 3) := by
  induction bytes using encodeChars.induct with
  | case1 | case2 | case3 => simp [encodeChars]
  | case4 a b c rest ih =>
      simp only [encodeChars, List.length_cons, ih]
      omega

theorem symbol_toNat_lt : ∀ n < 64, (symbol n).toNat < 128 := by
  decide

theorem ascii_encodeChars (bytes : List UInt8) : ∀ c ∈ encodeChars bytes, c.toNat < 128 := by
  have hpad : '='.toNat < 128 := by decide
  induction bytes using encodeChars.induct with
  | case1 => simp [encodeChars]
  | case2 a =>
      have ha := a.toNat_lt
      simp only [encodeChars, List.forall_mem_cons]
      exact ⟨symbol_toNat_lt _ (by omega), symbol_toNat_lt _ (by omega), hpad, hpad, by simp⟩
  | case3 a b =>
      have ha := a.toNat_lt
      have hb := b.toNat_lt
      simp only [encodeChars, List.forall_mem_cons]
      exact ⟨symbol_toNat_lt _ (by omega), symbol_toNat_lt _ (by omega),
        symbol_toNat_lt _ (by omega), hpad, by simp⟩
  | case4 a b c rest ih =>
      have ha := a.toNat_lt
      have hb := b.toNat_lt
      have hc := c.toNat_lt
      simp only [encodeChars, List.forall_mem_cons]
      exact ⟨symbol_toNat_lt _ (by omega), symbol_toNat_lt _ (by omega),
        symbol_toNat_lt _ (by omega), symbol_toNat_lt _ (by omega), ih⟩

/-- The written form of any bytes is read as these bytes. -/
theorem decode_encode (bytes : List UInt8) : decode (encode bytes).toUTF8.toList = .ok bytes := by
  have hcodes : (encode bytes).toUTF8.toList = (encodeChars bytes).map code :=
    toList_toUTF8_ofList (ascii_encodeChars bytes)
  have hlength : ((encodeChars bytes).map code).length % 4 ≠ 1 := by
    rw [List.length_map, length_encodeChars]
    omega
  unfold decode
  rw [hcodes]
  split
  · rw [if_neg fun h ↦ hlength h.1]
    exact decodeFrom_encodeChars bytes 0
  · rename_i hlast
    have hnone : encodeChars bytes = [] := by simpa using hlast
    have hempty : bytes = [] := by_contra fun h ↦ encodeChars_ne_nil h hnone
    rw [hempty]

/-- A text is the written form of one row of bytes at most. -/
theorem encode_injective {as bs : List UInt8} (h : encode as = encode bs) : as = bs := by
  have hchars : encodeChars as = encodeChars bs := String.ofList_injective h
  have hread : (.ok as : Except Error (List UInt8)) = .ok bs := by
    rw [← decodeFrom_encodeChars as 0, hchars, decodeFrom_encodeChars bs 0]
  exact Except.ok.inj hread

end BrowserPilot.Text.Base64
