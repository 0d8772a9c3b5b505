import Courier.Proofs.Text.Encoding

/-! Bytes written in Base64 are read as those bytes. A code is read four characters at a time: each of them stands for
its place in the alphabet, and signs that fill the end stand for nothing, so that the bits that are left over before
them have to be zero. -/

namespace Courier.Text

/-- The UTF-8 form of characters is read as those characters, and nothing in it is broken. -/
theorem ofUtf8?_utf8Bytes (cs : List Char) : ofUtf8? (utf8Bytes cs) = some (String.ofList cs) := by
  have hread : (cs.map some).mapM id = some cs := by
    induction cs with
    | nil => rfl
    | cons c cs ih => rw [List.map_cons, List.mapM_cons, ih]; rfl
  rw [ofUtf8?, utf8Chars_utf8Bytes (length_le_length_utf8Bytes cs), hread]
  rfl

namespace Base64

/-! ### Codes -/

/-- The characters that stand for six bits, in the order of what they stand for. -/
def alphabet : List Char := "ABCDEFGHIJKLMNOPQRSTUVWXYZabcdefghijklmnopqrstuvwxyz0123456789+/".toList

/-- Characters of the alphabet, filled up to groups of four by at most two signs. -/
def IsCode (cs : List Char) : Prop :=
  ∃ body fill, cs = body ++ fill ∧ (∀ c ∈ body, c ∈ alphabet) ∧ fill ∈ [[], ['='], ['=', '=']] ∧ 4 ∣ cs.length

/-- The number that characters of the alphabet stand for, the first one highest. -/
def number? (cs : List Char) : Option Nat :=
  cs.foldlM (fun n c => (alphabet.idxOf? c).map (64 * n + ·)) 0

/-- The bytes of a code. Nothing stands for what is no code, or has bits left over that are not zero. -/
def bytes? : List Char → Option Bytes
  | [] => some []
  | [a, b, '=', '='] => do
    let n ← number? [a, b]
    if n % 16 = 0 then some [UInt8.ofNat (n / 16)] else none
  | [a, b, c, '='] => do
    let n ← number? [a, b, c]
    if n % 4 = 0 then some [UInt8.ofNat (n / 1024), UInt8.ofNat (n / 4 % 256)] else none
  | a :: b :: c :: d :: rest => do
    let n ← number? [a, b, c, d]
    return UInt8.ofNat (n / 65536) :: UInt8.ofNat (n / 256 % 256) :: UInt8.ofNat (n % 256) :: (← bytes? rest)
  | _ => none

/-! ### What is written -/

variable {n : Nat}

theorem idxOf?_digit (h : n < 64) : alphabet.idxOf? (digit n) = some n := by
  have hall : ∀ n ∈ List.range 64, alphabet.idxOf? (digit n) = some n := by decide +kernel
  exact hall n (List.mem_range.2 h)

theorem digit_mem (h : n < 64) : digit n ∈ alphabet := by
  have hsome : (alphabet.idxOf? (digit n)).isSome = true := by rw [idxOf?_digit h]; rfl
  exact List.isSome_idxOf?.1 hsome

/-- The sign that fills a code up is no character of the alphabet. -/
theorem digit_ne (h : n < 64) : digit n ≠ '=' := by
  intro heq
  have hmem := digit_mem h
  rw [heq] at hmem
  exact absurd hmem (by decide +kernel)

theorem number?_digits {ns : List Nat} (h : ∀ n ∈ ns, n < 64) :
    number? (ns.map digit) = some (ns.foldl (64 * · + ·) 0) := by
  rw [number?]
  generalize 0 = start
  induction ns generalizing start with
  | nil => rfl
  | cons n ns ih =>
      rw [List.map_cons, List.foldlM_cons, idxOf?_digit (h n List.mem_cons_self)]
      exact ih (fun m hm => h m (List.mem_cons_of_mem _ hm)) _

theorem mem_alphabet_of_mem_map {ns : List Nat} (hns : ∀ n ∈ ns, n < 64) : ∀ c ∈ ns.map digit, c ∈ alphabet := by
  intro c hc
  obtain ⟨n, hn, rfl⟩ := List.mem_map.1 hc
  exact digit_mem (hns n hn)

/-- The last group of a code. -/
theorem isCode_last {ns : List Nat} {fill : List Char} (hns : ∀ n ∈ ns, n < 64) (hfill : fill ∈ [['='], ['=', '=']])
    (hlength : ns.length + fill.length = 4) : IsCode (ns.map digit ++ fill) := by
  refine ⟨ns.map digit, fill, rfl, mem_alphabet_of_mem_map hns, List.mem_cons_of_mem _ hfill, ?_⟩
  simp [hlength]

/-- A group without signs goes before a code. -/
theorem IsCode.append {ns : List Nat} {cs : List Char} (h : IsCode cs) (hns : ∀ n ∈ ns, n < 64)
    (hlength : ns.length = 4) : IsCode (ns.map digit ++ cs) := by
  obtain ⟨body, fill, rfl, hbody, hfill, hfour⟩ := h
  refine ⟨ns.map digit ++ body, fill, by rw [List.append_assoc], ?_, hfill, ?_⟩
  · intro c hc
    rcases List.mem_append.1 hc with hc | hc
    · exact mem_alphabet_of_mem_map hns c hc
    · exact hbody c hc
  · rw [List.length_append, List.length_map, hlength]
    exact Nat.dvd_add (Nat.dvd_refl 4) hfour

/-- The characters of bytes are a code. -/
theorem isCode_digits (bytes : Bytes) : IsCode (digits bytes) := by
  fun_induction digits bytes with
  | case1 => exact ⟨[], [], rfl, List.forall_mem_nil _, List.mem_cons_self, Nat.dvd_zero 4⟩
  | case2 a n =>
      have ha := a.toNat_lt
      have hns : ∀ m ∈ [n / 262144, n / 4096 % 64], m < 64 := by simp; omega
      exact isCode_last hns (by simp) rfl
  | case3 a b n =>
      have ha := a.toNat_lt
      have hb := b.toNat_lt
      have hns : ∀ m ∈ [n / 262144, n / 4096 % 64, n / 64 % 64], m < 64 := by simp; omega
      exact isCode_last hns (by simp) rfl
  | case4 a b c rest n ih =>
      have ha := a.toNat_lt
      have hb := b.toNat_lt
      have hc := c.toNat_lt
      have hns : ∀ m ∈ [n / 262144, n / 4096 % 64, n / 64 % 64, n % 64], m < 64 := by simp; omega
      exact ih.append hns rfl

/-! ### Reading what was written -/

theorem bytes?_three {c : Char} (h : c ≠ '=') (a b : Char) : bytes? [a, b, c, '='] = (do
    let n ← number? [a, b, c]
    if n % 4 = 0 then some [UInt8.ofNat (n / 1024), UInt8.ofNat (n / 4 % 256)] else none) := by
  rw [bytes?]
  exact h

theorem bytes?_four {d : Char} (h : d ≠ '=') (a b c : Char) (rest : List Char) :
    bytes? (a :: b :: c :: d :: rest) = (do
      let n ← number? [a, b, c, d]
      return UInt8.ofNat (n / 65536) :: UInt8.ofNat (n / 256 % 256) :: UInt8.ofNat (n % 256) :: (← bytes? rest)) := by
  rw [bytes?]
  · exact fun _ hd => absurd hd h
  · exact fun hd => absurd hd h

/-- Six bits go behind those before them. -/
theorem shift_digit (n m : Nat) : 64 * (n / (64 * m)) + n / m % 64 = n / m := by
  rw [Nat.mul_comm 64 m, ← Nat.div_div_eq_div_mul, Nat.div_add_mod]

/-- The number that the first two, three or four groups of six bits of a number stand for. -/
theorem foldl_digits (n : Nat) : [n / 262144, n / 4096 % 64].foldl (64 * · + ·) 0 = n / 4096 ∧
    [n / 262144, n / 4096 % 64, n / 64 % 64].foldl (64 * · + ·) 0 = n / 64 ∧
    [n / 262144, n / 4096 % 64, n / 64 % 64, n % 64].foldl (64 * · + ·) 0 = n := by
  have hfirst : 64 * 0 + n / 262144 = n / (64 * 4096) := by rw [Nat.mul_zero, Nat.zero_add]
  simp only [List.foldl_cons, List.foldl_nil, hfirst, shift_digit n 4096]
  exact ⟨trivial, shift_digit n 64, by rw [shift_digit n 64, Nat.div_add_mod]⟩

/-- Bytes that were written are read. -/
theorem bytes?_digits (bytes : Bytes) : bytes? (digits bytes) = some bytes := by
  fun_induction digits bytes with
  | case1 => rfl
  | case2 a n =>
      have ha := a.toNat_lt
      have hns : ∀ m ∈ [n / 262144, n / 4096 % 64], m < 64 := by simp; omega
      have hsum : [n / 262144, n / 4096 % 64].foldl (64 * · + ·) 0 = a.toNat * 16 := (foldl_digits n).1.trans (by omega)
      have hnumber : number? [digit (n / 262144), digit (n / 4096 % 64)] = some (a.toNat * 16) :=
        (number?_digits hns).trans (congrArg some hsum)
      rw [bytes?, hnumber]
      simp
  | case3 a b n =>
      have ha := a.toNat_lt
      have hb := b.toNat_lt
      have hns : ∀ m ∈ [n / 262144, n / 4096 % 64, n / 64 % 64], m < 64 := by simp; omega
      have hsum : [n / 262144, n / 4096 % 64, n / 64 % 64].foldl (64 * · + ·) 0 = (a.toNat * 256 + b.toNat) * 4 :=
        (foldl_digits n).2.1.trans (by omega)
      have hnumber : number? [digit (n / 262144), digit (n / 4096 % 64), digit (n / 64 % 64)] =
          some ((a.toNat * 256 + b.toNat) * 4) := (number?_digits hns).trans (congrArg some hsum)
      have hfirst : (a.toNat * 256 + b.toNat) * 4 / 1024 = a.toNat := by omega
      rw [bytes?_three (digit_ne (Nat.mod_lt _ (by decide))), hnumber]
      simp [hfirst]
  | case4 a b c rest n ih =>
      have ha := a.toNat_lt
      have hb := b.toNat_lt
      have hc := c.toNat_lt
      have hns : ∀ m ∈ [n / 262144, n / 4096 % 64, n / 64 % 64, n % 64], m < 64 := by simp; omega
      have hsum : [n / 262144, n / 4096 % 64, n / 64 % 64, n % 64].foldl (64 * · + ·) 0 = n := (foldl_digits n).2.2
      have hnumber : number? [digit (n / 262144), digit (n / 4096 % 64), digit (n / 64 % 64), digit (n % 64)] =
          some n := (number?_digits hns).trans (congrArg some hsum)
      have hfirst : n / 65536 = a.toNat := by omega
      have hsecond : n / 256 % 256 = b.toNat := by omega
      have hthird : n % 256 = c.toNat := by omega
      rw [bytes?_four (digit_ne (Nat.mod_lt _ (by decide))), hnumber, ih]
      simp [hfirst, hsecond, hthird]

end Base64

end Courier.Text
