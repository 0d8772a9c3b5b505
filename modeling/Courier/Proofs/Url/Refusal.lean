import Courier.Proofs.Url.Composed
import Mathlib.Data.Bool.AllAny

/-! Which URLs are refused. The rule speaks of the text as it is written: behind an optional scheme two slashes start an
authority, behind the last login sign of the authority stands a place, and the URL is refused if that place is empty or
has an empty host or a bad port. Every other text is split into parts. -/

namespace Courier.Url

open Courier.Text

/-! ### The place of a URL -/

/-- A scheme: an ASCII letter, and then letters, digits, hyphens, points and blanks. -/
inductive IsScheme : List Char → Prop
  | intro {first : Char} {rest : List Char} (hfirst : isAsciiLetter first) (hrest : ∀ c ∈ rest, isSchemeChar c) :
      IsScheme (first :: rest)

/-- What stands behind the colon of the scheme of a text, and the whole text where it has no scheme. -/
inductive BehindScheme : List Char → List Char → Prop
  | scheme {scheme rest : List Char} (h : IsScheme scheme) : BehindScheme (scheme ++ ':' :: rest) rest
  | whole {cs : List Char} (h : ∀ scheme rest, cs = scheme ++ ':' :: rest → ¬ IsScheme scheme) : BehindScheme cs cs

/-- What stands behind the last login sign of an authority, and the whole authority where it has none. -/
inductive BehindLogin : List Char → List Char → Prop
  | login {login place : List Char} (h : '@' ∉ place) : BehindLogin (login ++ '@' :: place) place
  | whole {place : List Char} (h : '@' ∉ place) : BehindLogin place place

/-- A place without a host, or with a port that is none: behind the last colon, unless a bracket ends the place, stands
something else than digits, or a number beyond the highest port. -/
def NamesNoHost (place : List Char) : Prop :=
  place = [] ∨ place.getLast? ≠ some ']' ∧ ∃ host port, place = host ++ ':' :: port ∧ ':' ∉ port ∧
    (host = [] ∨ (∃ c ∈ port, isAsciiDigit c = false) ∨ portLimit < natOfDigits port)

/-- A URL that has an authority, and in it a place that names no host. -/
def LacksHost (cs : List Char) : Prop :=
  ∃ authority tail place, BehindScheme cs ('/' :: '/' :: (authority ++ tail)) ∧
    (∀ c ∈ authority, c ∉ ['/', '?', '#']) ∧ (∀ c ∈ tail.head?, c ∈ ['/', '?', '#']) ∧
    BehindLogin authority place ∧ NamesNoHost place

/-! ### Where the place is cut out -/

theorem isScheme_iff {cs : List Char} : IsScheme cs ↔ cs.head?.any isAsciiLetter ∧ ∀ c ∈ cs, isSchemeChar c := by
  constructor
  · rintro ⟨hfirst, hrest⟩
    refine ⟨hfirst, List.forall_mem_cons.2 ⟨?_, hrest⟩⟩
    simp [isSchemeChar, hfirst]
  · rintro ⟨hletter, hall⟩
    cases cs with
    | nil => cases hletter
    | cons first rest => exact ⟨hletter, fun c hc => hall c (List.mem_cons_of_mem _ hc)⟩

theorem scheme?_eq_none {cs : List Char} :
    scheme? cs = none ↔ ∀ scheme rest, cs = scheme ++ ':' :: rest → ¬ IsScheme scheme := by
  constructor
  · rintro hnone scheme rest rfl hscheme
    obtain ⟨hletter, hall⟩ := isScheme_iff.1 hscheme
    rw [scheme?_append hletter hall] at hnone
    cases hnone
  · intro h
    cases hscheme : scheme? cs with
    | none => rfl
    | some found =>
        obtain ⟨before, hcs, -, hletter, hall⟩ := scheme?_spec hscheme
        exact absurd (isScheme_iff.2 ⟨hletter, hall⟩) (h before found.2 hcs)

theorem behindScheme_iff {cs rest : List Char} : BehindScheme cs rest ↔ (scheme? cs).elim cs (·.2) = rest := by
  constructor
  · intro h
    cases h with
    | scheme h =>
        obtain ⟨hletter, hall⟩ := isScheme_iff.1 h
        rw [scheme?_append hletter hall]
        rfl
    | whole h =>
        rw [scheme?_eq_none.2 h]
        rfl
  · rintro rfl
    cases hscheme : scheme? cs with
    | none => exact .whole (scheme?_eq_none.1 hscheme)
    | some found =>
        obtain ⟨before, rfl, -, hletter, hall⟩ := scheme?_spec hscheme
        exact .scheme (isScheme_iff.2 ⟨hletter, hall⟩)

theorem behindLogin_iff {authority place : List Char} :
    BehindLogin authority place ↔ (cutLast? '@' authority).elim authority (·.2) = place := by
  constructor
  · intro h
    cases h with
    | login h =>
        rw [cutLast?_eq_some.2 ⟨rfl, h⟩]
        rfl
    | whole h =>
        rw [cutLast?_eq_none.2 h]
        rfl
  · rintro rfl
    cases hcut : cutLast? '@' authority with
    | none => exact .whole (cutLast?_eq_none.1 hcut)
    | some found =>
        obtain ⟨rfl, hplace⟩ := cutLast?_eq_some.1 hcut
        exact .login hplace

/-- An authority is what stands behind two slashes up to the next slash or the start of the query or the fragment. -/
theorem splitAuthority_eq_some {cs authority tail : List Char} :
    splitAuthority cs = (some authority, tail) ↔ cs = '/' :: '/' :: (authority ++ tail) ∧
      (∀ c ∈ authority, c ∉ ['/', '?', '#']) ∧ ∀ c ∈ tail.head?, c ∈ ['/', '?', '#'] := by
  constructor
  · intro h
    unfold splitAuthority at h
    split at h
    · rename_i rest
      have hcut : cutAt ['/', '?', '#'] rest = (authority, tail) := by
        cases h
        rfl
      obtain ⟨rfl, hspec⟩ := cutAt_spec hcut
      exact ⟨rfl, hspec⟩
    · cases h
  · rintro ⟨rfl, hauthority, htail⟩
    rw [splitAuthority, cutAt_append hauthority htail]

/-! ### What is refused -/

/-- The port of a place stands behind its last colon, unless a bracket ends the place. -/
theorem cutPort_eq_cons {cs host port : List Char} (hlast : cs.getLast? ≠ some ']') (h : cs = host ++ ':' :: port)
    (hport : ':' ∉ port) : cutPort cs = (host, port) := by
  unfold cutPort
  rw [if_neg (by simpa using hlast), cutLast?_eq_some.2 ⟨h, hport⟩]
  rfl

theorem cutPort_eq_self {cs : List Char} (h : cs.getLast? = some ']' ∨ ':' ∉ cs) : cutPort cs = (cs, []) := by
  unfold cutPort
  rcases h with h | h
  · rw [if_pos (by simpa using h)]
    rfl
  · rw [cutLast?_eq_none.2 h, ite_self]
    rfl

theorem hostAndPort?_eq_none {cs : List Char} : hostAndPort? cs = none ↔ NamesNoHost cs := by
  by_cases hcut : cs.getLast? = some ']' ∨ ':' ∉ cs
  · -- there is no port, so that an empty place is all there is to refuse
    have hnone : hostAndPort? cs = none ↔ cs = [] := by
      unfold hostAndPort?
      rw [cutPort_eq_self hcut]
      simp [natOfDigits]
    rw [hnone]
    constructor
    · exact Or.inl
    · rintro (hnil | ⟨hlast, host, port, rfl, -, -⟩)
      · exact hnil
      · rcases hcut with hbracket | hcolon
        · exact absurd hbracket hlast
        · exact absurd (by simp) hcolon
  · rw [not_or, not_not] at hcut
    obtain ⟨hlast, hcolon⟩ := hcut
    cases hport : cutLast? ':' cs with
    | none => exact absurd hcolon (cutLast?_eq_none.1 hport)
    | some found =>
        obtain ⟨host, port⟩ := found
        obtain ⟨hcs, hfree⟩ := cutLast?_eq_some.1 hport
        have hnone : hostAndPort? cs = none ↔
            host = [] ∨ (∃ c ∈ port, isAsciiDigit c = false) ∨ portLimit < natOfDigits port := by
          unfold hostAndPort?
          rw [cutPort_eq_cons hlast hcs hfree]
          simp only [ite_eq_left_iff, reduceCtorEq, imp_false, not_not, Bool.or_eq_true, List.isEmpty_iff,
            Bool.not_eq_true', List.all_eq_false, Bool.not_eq_true, decide_eq_true_eq, or_assoc]
        rw [hnone]
        constructor
        · exact fun h => Or.inr ⟨hlast, host, port, hcs, hfree, h⟩
        · rintro (hnil | ⟨-, host', port', hcs', hfree', h⟩)
          · rw [hnil] at hcolon
            cases hcolon
          · have hsame := hport.symm.trans (cutLast?_eq_some.2 ⟨hcs', hfree'⟩)
            cases hsame
            exact h

theorem authority?_eq_none {cs : List Char} : authority? cs = none ↔ ∃ place, BehindLogin cs place ∧ NamesNoHost place := by
  have hplace : authority? cs = none ↔ hostAndPort? ((cutLast? '@' cs).elim cs (·.2)) = none := by
    unfold authority?
    cases hfound : hostAndPort? ((cutLast? '@' cs).elim cs (·.2)) <;> simp [hfound]
  rw [hplace, hostAndPort?_eq_none]
  constructor
  · exact fun h => ⟨_, behindLogin_iff.2 rfl, h⟩
  · rintro ⟨place, hlogin, h⟩
    rwa [behindLogin_iff.1 hlogin]

/-- A text is not split if and only if it has an authority without a host. -/
theorem split?_eq_none {cs : List Char} : split? cs = none ↔ LacksHost cs := by
  have hsplit : split? cs = none ↔
      ∃ authority tail, splitAuthority ((scheme? cs).elim cs (·.2)) = (some authority, tail) ∧
        authority? authority = none := by
    rcases hcut : splitAuthority ((scheme? cs).elim cs (·.2)) with ⟨_ | authority, tail⟩
    · simp [split?, hcut]
    · cases hfound : authority? authority <;> simp [split?, hcut, hfound]
  rw [hsplit]
  constructor
  · rintro ⟨authority, tail, hauthority, hnone⟩
    obtain ⟨hrest, hends, htail⟩ := splitAuthority_eq_some.1 hauthority
    obtain ⟨place, hlogin, hhost⟩ := authority?_eq_none.1 hnone
    exact ⟨authority, tail, place, behindScheme_iff.2 hrest, hends, htail, hlogin, hhost⟩
  · rintro ⟨authority, tail, place, hscheme, hends, htail, hlogin, hhost⟩
    exact ⟨authority, tail, splitAuthority_eq_some.2 ⟨behindScheme_iff.1 hscheme, hends, htail⟩,
      authority?_eq_none.2 ⟨place, hlogin, hhost⟩⟩

/-! ### Whole URLs -/

/-- A text whose characters can all be encoded has parts or none, unless its port has too many digits to be read. -/
theorem split_eq {url : String} (hurl : ∀ c ∈ url.toList, isScalar c) :
    split url =
      match longPort? url.toList with
      | some digits => .error (.portTooLong digits)
      | none => (split? url.toList).elim (.error (.malformed url)) .ok := by
  unfold split
  rw [encodingFault?_eq_none hurl]
  cases longPort? url.toList with
  | some digits => rfl
  | none => cases split? url.toList <;> rfl

theorem lt_of_longPort? {cs : List Char} {digits : Nat} (h : longPort? cs = some digits) :
    Number.digitLimit < digits := by
  unfold longPort? at h
  obtain ⟨authority, -, h⟩ := Option.bind_eq_some_iff.1 h
  dsimp only at h
  split at h
  · rename_i hlong
    cases h
    simp only [Bool.and_eq_true, decide_eq_true_eq] at hlong
    exact hlong.2
  · cases h

end Courier.Url
