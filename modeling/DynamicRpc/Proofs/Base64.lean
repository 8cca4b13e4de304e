import DynamicRpc.Base64
import DynamicRpc.Proofs.Success
import DynamicRpc.Proofs.Text.Utf8

/-!
Base64 there and back. The strict reader takes exactly what the writer produces, so a text stands
for one byte string at most, and four symbols are never fewer than three bytes need.
-/
namespace DynamicRpc.Base64

open Success

/-! Symbols -/

theorem value?_symbol {n : Nat} (h : n < 64) : strict.value? (symbol n) = some n := by
  have all : ∀ n < 64, strict.value? (symbol n) = some n := by decide
  exact all n h

theorem symbol_of_value? {s : UInt8} {n : Nat} (h : strict.value? s = some n) :
    n < 64 ∧ symbol n = s := by
  have all : ∀ k < 256, ∀ n ∈ strict.value? (UInt8.ofNat k), n < 64 ∧ symbol n = UInt8.ofNat k := by
    decide +kernel
  have found := all s.toNat s.toNat_lt n
  rw [UInt8.ofNat_toNat] at found
  exact found h

theorem symbol_ne_pad {n : Nat} (h : n < 64) : symbol n ≠ pad := by
  have all : ∀ n < 64, symbol n ≠ pad := by decide
  exact all n h

theorem value_symbol {n : Nat} (h : n < 64) (offset : Nat) :
    strict.value offset (symbol n) = .ok n := by
  rw [Rules.value, value?_symbol h]

theorem value_eq_ok {offset n : Nat} {s : UInt8} (h : strict.value offset s = .ok n) :
    n < 64 ∧ symbol n = s := by
  unfold Rules.value at h
  split at h
  next found =>
    cases h
    exact symbol_of_value? found
  next => cases h

/-! Groups -/

/-- The bytes of a full group of symbols. -/
def bytesOf (x y z w : Nat) : Bytes :=
  [UInt8.ofNat (x * 4 + y / 16), UInt8.ofNat (y % 16 * 16 + z / 4), UInt8.ofNat (z % 4 * 64 + w)]

theorem byte_eq {n : Nat} {a : UInt8} (h : n = a.toNat) : UInt8.ofNat n = a := by
  rw [h, UInt8.ofNat_toNat]

/-- Three bytes are split into four numbers and put together from them. -/
theorem bytesOf_split (a b c : UInt8) :
    bytesOf (a.toNat / 4) (a.toNat % 4 * 16 + b.toNat / 16) (b.toNat % 16 * 4 + c.toNat / 64)
      (c.toNat % 64) = [a, b, c] := by
  have := a.toNat_lt
  have := b.toNat_lt
  have := c.toNat_lt
  simp only [bytesOf, List.cons.injEq, and_true]
  refine ⟨byte_eq ?_, byte_eq ?_, byte_eq ?_⟩ <;> omega

/-- Four numbers are put together to three bytes and split from them. -/
theorem encodeBytes_bytesOf {x y z w : Nat} (hx : x < 64) (hy : y < 64) (hz : z < 64) (hw : w < 64)
    (rest : Bytes) : encodeBytes (bytesOf x y z w ++ rest) =
      symbol x :: symbol y :: symbol z :: symbol w :: encodeBytes rest := by
  have first : (UInt8.ofNat (x * 4 + y / 16)).toNat = x * 4 + y / 16 := toNat_byte (by omega)
  have second : (UInt8.ofNat (y % 16 * 16 + z / 4)).toNat = y % 16 * 16 + z / 4 :=
    toNat_byte (by omega)
  have third : (UInt8.ofNat (z % 4 * 64 + w)).toNat = z % 4 * 64 + w := toNat_byte (by omega)
  have ex : (x * 4 + y / 16) / 4 = x := by omega
  have ey : (x * 4 + y / 16) % 4 * 16 + (y % 16 * 16 + z / 4) / 16 = y := by omega
  have ez : (y % 16 * 16 + z / 4) % 16 * 4 + (z % 4 * 64 + w) / 64 = z := by omega
  have ew : (z % 4 * 64 + w) % 64 = w := by omega
  simp only [bytesOf, List.cons_append, List.nil_append, encodeBytes, first, second, third, ex, ey,
    ez, ew]

/-- Two symbols without bits left over stand for one byte. -/
theorem encodeBytes_two {x y : Nat} (hx : x < 64) (hy : y < 64) (zero : y % 16 = 0) :
    encodeBytes [UInt8.ofNat (x * 4 + y / 16)] = [symbol x, symbol y, pad, pad] := by
  have byte : (UInt8.ofNat (x * 4 + y / 16)).toNat = x * 4 + y / 16 := toNat_byte (by omega)
  have ex : (x * 4 + y / 16) / 4 = x := by omega
  have ey : (x * 4 + y / 16) % 4 * 16 = y := by omega
  simp only [encodeBytes, byte, ex, ey]

/-- Three symbols without bits left over stand for two bytes. -/
theorem encodeBytes_three {x y z : Nat} (hx : x < 64) (hy : y < 64) (hz : z < 64)
    (zero : z % 4 = 0) :
    encodeBytes [UInt8.ofNat (x * 4 + y / 16), UInt8.ofNat (y % 16 * 16 + z / 4)] =
      [symbol x, symbol y, symbol z, pad] := by
  have first : (UInt8.ofNat (x * 4 + y / 16)).toNat = x * 4 + y / 16 := toNat_byte (by omega)
  have second : (UInt8.ofNat (y % 16 * 16 + z / 4)).toNat = y % 16 * 16 + z / 4 :=
    toNat_byte (by omega)
  have ex : (x * 4 + y / 16) / 4 = x := by omega
  have ey : (x * 4 + y / 16) % 4 * 16 + (y % 16 * 16 + z / 4) / 16 = y := by omega
  have ez : (y % 16 * 16 + z / 4) % 16 * 4 = z := by omega
  simp only [encodeBytes, first, second, ex, ey, ez]

/-- What the last group holds: numbers below 64 in their symbols, and pads behind them. -/
theorem lastGroup_eq_ok {start : Nat} {seen g : LastGroup} {text : Bytes}
    (h : strict.lastGroup start seen text = .ok g) : ∃ ns k,
      text = ns.map symbol ++ List.replicate k pad ∧ (∀ n ∈ ns, n < 64) ∧
        g.values = seen.values ++ ns ∧ g.pads = seen.pads + k ∧ (0 < seen.pads → ns = []) := by
  induction text generalizing seen with
  | nil =>
    cases h
    exact ⟨[], 0, by simp⟩
  | cons s rest ih =>
    unfold Rules.lastGroup at h
    dsimp only at h
    split at h
    next padding =>
      split at h
      next => cases h
      next =>
        obtain ⟨ns, k, rfl, small, values, pads, none⟩ := ih h
        obtain rfl := none (Nat.succ_pos _)
        refine ⟨[], k + 1, ?_, small, values, ?_, fun _ => rfl⟩
        · rw [padding]
          rfl
        · rw [pads]
          dsimp only
          omega
    next =>
      split at h
      next => cases h
      next unpadded =>
        obtain ⟨n, hn, h⟩ := bind_eq_ok.1 h
        obtain ⟨below, rfl⟩ := value_eq_ok hn
        obtain ⟨ns, k, rfl, small, values, pads, _⟩ := ih h
        refine ⟨n :: ns, k, rfl, List.forall_mem_cons.2 ⟨below, small⟩, ?_, pads, ?_⟩
        · rw [values]
          simp
        · intro some
          exact absurd some unpadded

/-- A last group that is read is the one that is written. -/
theorem encodeBytes_of_group {start : Nat} {text b : Bytes} {g : LastGroup}
    (short : text.length ≤ 4) (read : strict.lastGroup start ⟨[], 0, 0⟩ text = .ok g)
    (h : strict.finish start g = .ok b) : encodeBytes b = text := by
  obtain ⟨ns, k, rfl, small, values, pads, -⟩ := lastGroup_eq_ok read
  rw [List.nil_append] at values
  rw [Nat.zero_add] at pads
  rw [List.length_append, List.length_map, List.length_replicate] at short
  unfold Rules.finish at h
  dsimp only at h
  rw [values, pads] at h
  split at h
  next => cases h
  next enough =>
    split at h
    next => cases h
    next padded =>
      have four : (ns.length + k) % 4 = 0 := by
        simpa [strict] using padded
      have length : ns.length + k = 4 := by omega
      split at h
      next x y =>
        split at h
        next => cases h
        next canonical =>
          cases h
          obtain rfl : k = 2 := Nat.add_left_cancel length
          have zero : y % 16 = 0 := by simpa [strict] using canonical
          exact encodeBytes_two (small x (by simp)) (small y (by simp)) zero
      next x y z =>
        split at h
        next => cases h
        next canonical =>
          cases h
          obtain rfl : k = 1 := Nat.add_left_cancel length
          have zero : z % 4 = 0 := by simpa [strict] using canonical
          exact encodeBytes_three (small x (by simp)) (small y (by simp)) (small z (by simp)) zero
      next x y z w =>
        cases h
        obtain rfl : k = 0 := Nat.add_left_cancel length
        exact encodeBytes_bytesOf (small x (by simp)) (small y (by simp)) (small z (by simp))
          (small w (by simp)) []
      next => cases h

theorem encodeBytes_of_decodeFrom {start : Nat} {text b : Bytes}
    (h : strict.decodeFrom start text = .ok b) : encodeBytes b = text := by
  fun_induction Rules.decodeFrom strict start text generalizing b with
  | case1 =>
    cases h
    rfl
  | case2 start s₁ s₂ s₃ s₄ s₅ rest ih =>
    obtain ⟨x, first, h⟩ := bind_eq_ok.1 h
    obtain ⟨y, second, h⟩ := bind_eq_ok.1 h
    obtain ⟨z, third, h⟩ := bind_eq_ok.1 h
    obtain ⟨w, fourth, h⟩ := bind_eq_ok.1 h
    obtain ⟨more, others, h⟩ := bind_eq_ok.1 h
    obtain rfl := pure_eq_ok.1 h
    obtain ⟨hx, rfl⟩ := value_eq_ok first
    obtain ⟨hy, rfl⟩ := value_eq_ok second
    obtain ⟨hz, rfl⟩ := value_eq_ok third
    obtain ⟨hw, rfl⟩ := value_eq_ok fourth
    rw [← ih others]
    exact encodeBytes_bytesOf hx hy hz hw more
  | case3 start text _ group =>
    obtain ⟨g, read, h⟩ := bind_eq_ok.1 h
    refine encodeBytes_of_group ?_ read h
    match text with
    | [] | [_] | [_, _] | [_, _, _] | [_, _, _, _] => simp
    | a :: b :: c :: d :: e :: rest => exact (group a b c d e rest rfl).elim

/-! Reading what was written -/

theorem lastGroup_symbol {start n : Nat} (h : n < 64) (values : List Nat) (last : UInt8)
    (rest : Bytes) : strict.lastGroup start ⟨values, last, 0⟩ (symbol n :: rest) =
      strict.lastGroup start ⟨values ++ [n], symbol n, 0⟩ rest := by
  rw [Rules.lastGroup, if_neg (symbol_ne_pad h), if_neg (Nat.lt_irrefl 0), value_symbol h]
  rfl

theorem lastGroup_pad {start : Nat} {seen : LastGroup} (h : 2 ≤ seen.values.length + seen.pads)
    (rest : Bytes) : strict.lastGroup start seen (pad :: rest) =
      strict.lastGroup start ⟨seen.values, seen.last, seen.pads + 1⟩ rest := by
  rw [Rules.lastGroup, if_pos rfl, if_neg (Nat.not_lt.2 h)]

theorem finish_two {x y : Nat} (h : y % 16 = 0) (start : Nat) (last : UInt8) :
    strict.finish start ⟨[x, y], last, 2⟩ = .ok [UInt8.ofNat (x * 4 + y / 16)] := by
  simp [Rules.finish, strict, h]

theorem finish_three {x y z : Nat} (h : z % 4 = 0) (start : Nat) (last : UInt8) :
    strict.finish start ⟨[x, y, z], last, 1⟩ =
      .ok [UInt8.ofNat (x * 4 + y / 16), UInt8.ofNat (y % 16 * 16 + z / 4)] := by
  simp [Rules.finish, strict, h]

theorem finish_four (x y z w start : Nat) (last : UInt8) :
    strict.finish start ⟨[x, y, z, w], last, 0⟩ = .ok (bytesOf x y z w) := by
  simp [Rules.finish, strict, bytesOf]

theorem decodeFrom_one (start : Nat) (a : UInt8) :
    strict.decodeFrom start (encodeBytes [a]) = .ok [a] := by
  have := a.toNat_lt
  have hx : a.toNat / 4 < 64 := by omega
  have hy : a.toNat % 4 * 16 < 64 := by omega
  have byte : UInt8.ofNat (a.toNat / 4 * 4 + a.toNat % 4 * 16 / 16) = a := byte_eq (by omega)
  simp only [encodeBytes, Rules.decodeFrom, lastGroup_symbol hx, lastGroup_symbol hy]
  rw [lastGroup_pad (by simp), lastGroup_pad (by simp)]
  exact (finish_two (by omega) start _).trans (by rw [byte])

theorem decodeFrom_two (start : Nat) (a b : UInt8) :
    strict.decodeFrom start (encodeBytes [a, b]) = .ok [a, b] := by
  have := a.toNat_lt
  have := b.toNat_lt
  have hx : a.toNat / 4 < 64 := by omega
  have hy : a.toNat % 4 * 16 + b.toNat / 16 < 64 := by omega
  have hz : b.toNat % 16 * 4 < 64 := by omega
  have first : UInt8.ofNat (a.toNat / 4 * 4 + (a.toNat % 4 * 16 + b.toNat / 16) / 16) = a :=
    byte_eq (by omega)
  have second : UInt8.ofNat ((a.toNat % 4 * 16 + b.toNat / 16) % 16 * 16 + b.toNat % 16 * 4 / 4) =
    b := byte_eq (by omega)
  simp only [encodeBytes, Rules.decodeFrom, lastGroup_symbol hx, lastGroup_symbol hy,
    lastGroup_symbol hz]
  rw [lastGroup_pad (by simp)]
  exact (finish_three (by omega) start _).trans (by rw [first, second])

theorem decodeFrom_three (start : Nat) (a b c : UInt8) :
    strict.decodeFrom start (encodeBytes [a, b, c]) = .ok [a, b, c] := by
  have := a.toNat_lt
  have := b.toNat_lt
  have := c.toNat_lt
  have hx : a.toNat / 4 < 64 := by omega
  have hy : a.toNat % 4 * 16 + b.toNat / 16 < 64 := by omega
  have hz : b.toNat % 16 * 4 + c.toNat / 64 < 64 := by omega
  have hw : c.toNat % 64 < 64 := by omega
  simp only [encodeBytes, Rules.decodeFrom, lastGroup_symbol hx, lastGroup_symbol hy,
    lastGroup_symbol hz, lastGroup_symbol hw]
  exact (finish_four _ _ _ _ start _).trans (by rw [bytesOf_split])

/-- More symbols follow a full group. -/
theorem encodeBytes_cons (a : UInt8) (rest : Bytes) :
    ∃ s more, encodeBytes (a :: rest) = s :: more := by
  match rest with
  | [] | [_] | _ :: _ :: _ => exact ⟨_, _, rfl⟩

theorem decodeFrom_encodeBytes (start : Nat) (b : Bytes) :
    strict.decodeFrom start (encodeBytes b) = .ok b := by
  fun_induction encodeBytes b generalizing start with
  | case1 => rfl
  | case2 a => exact decodeFrom_one start a
  | case3 a b => exact decodeFrom_two start a b
  | case4 a b c rest ih =>
    cases rest with
    | nil => exact decodeFrom_three start a b c
    | cons d rest =>
      obtain ⟨s, more, h⟩ := encodeBytes_cons d rest
      have := a.toNat_lt
      have := b.toNat_lt
      have := c.toNat_lt
      have hx : a.toNat / 4 < 64 := by omega
      have hy : a.toNat % 4 * 16 + b.toNat / 16 < 64 := by omega
      have hz : b.toNat % 16 * 4 + c.toNat / 64 < 64 := by omega
      have hw : c.toNat % 64 < 64 := by omega
      rw [h] at ih ⊢
      rw [Rules.decodeFrom, value_symbol hx, value_symbol hy, value_symbol hz, value_symbol hw, ih]
      exact congrArg (fun g => Except.ok (g ++ d :: rest)) (bytesOf_split a b c)

theorem length_encodeBytes (b : Bytes) : (encodeBytes b).length = 4 * ((b.length + 2) / 3) := by
  fun_induction encodeBytes b with
  | case1 => rfl
  | case2 | case3 => simp
  | case4 a b c rest ih =>
    simp only [List.length_cons, ih]
    omega

/-- The strict reader takes what the writer produces, and nothing else. -/
theorem decode_eq_ok {text b : Bytes} : strict.decode text = .ok b ↔ text = encodeBytes b := by
  constructor
  · intro h
    unfold Rules.decode at h
    split at h
    next s last =>
      split at h
      next => cases h
      next => exact (encodeBytes_of_decodeFrom h).symm
    next none =>
      cases h
      rw [List.getLast?_eq_none_iff.1 none]
      rfl
  · rintro rfl
    unfold Rules.decode
    split
    next s last =>
      have full : (encodeBytes b).length % 4 ≠ 1 := by
        rw [length_encodeBytes]
        omega
      simp only [full, decide_false, Bool.false_and, Bool.false_eq_true, if_false]
      exact decodeFrom_encodeBytes 0 b
    next none =>
      rw [← decodeFrom_encodeBytes 0 b, List.getLast?_eq_none_iff.1 none]
      rfl

/-- Four symbols are never fewer than three bytes need. -/
theorem length_of_decode {text b : Bytes} (h : strict.decode text = .ok b) :
    4 * b.length ≤ 3 * text.length := by
  rw [decode_eq_ok.1 h, length_encodeBytes]
  omega

/-- Symbols are signs of seven bits, and no blanks. -/
theorem symbol_printable (n : Nat) : 32 < (symbol n).toNat ∧ (symbol n).toNat < 128 := by
  unfold symbol
  split
  · rw [toNat_byte (by omega)]
    omega
  · split
    · rw [toNat_byte (by omega)]
      omega
    · split
      · rw [toNat_byte (by omega)]
        omega
      · split <;> decide

theorem encodeBytes_printable (b : Bytes) :
    ∀ s ∈ encodeBytes b, 32 < s.toNat ∧ s.toNat < 128 := by
  have pad : 32 < pad.toNat ∧ pad.toNat < 128 := by decide
  fun_induction encodeBytes b with
  | case1 => simp
  | case2 | case3 => simp [symbol_printable, pad]
  | case4 a b c rest ih => simpa [symbol_printable] using ih

/-- A written text has the symbols as its characters. -/
theorem toBytes_encode (b : Bytes) : Text.toBytes (encode b) = encodeBytes b := by
  have char : ∀ n < 128, (Char.ofNat n).toNat = n := by decide
  have back : ∀ s ∈ encodeBytes b, UInt8.ofNat (Char.ofNat s.toNat).toNat = s := by
    intro s hs
    rw [char _ (encodeBytes_printable b s hs).2, UInt8.ofNat_toNat]
  rw [encode, Text.toBytes_ofList_ascii, List.map_map]
  · exact (List.map_congr_left back).trans (List.map_id _)
  · intro c hc
    obtain ⟨s, hs, rfl⟩ := List.mem_map.1 hc
    have small := (encodeBytes_printable b s hs).2
    rwa [char _ small]

end DynamicRpc.Base64
