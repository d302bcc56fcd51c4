import GameShelf.Json.Lexer
import GameShelf.Proofs.Json.Grammar
import GameShelf.Proofs.Numeral.Digits

/-!
# Reading one token

A token is read from a text that begins with one of its spellings, up to where the spelling ends.
Only a number could go on there, and it does not where the rest of the text begins with neither a
digit, a point nor the letter of an exponent. The other way round, what is read as a token is one of
its spellings.
-/

namespace GameShelf.Json

theorem exists_of_map_eq_some {α β : Type} {x : Option (α × List Char)} {f : α → β} {b : β}
    {rest : List Char} (h : (x.map fun (a, rest) ↦ (f a, rest)) = some (b, rest)) :
    ∃ a, x = some (a, rest) ∧ f a = b := by
  obtain ⟨⟨a, rest'⟩, hx, heq⟩ := Option.map_eq_some_iff.1 h
  obtain ⟨hf, hrest⟩ := Prod.mk.inj heq
  exact ⟨a, hrest ▸ hx, hf⟩

/-! ## Strings -/

theorem stringPieces?_char {c : Char} (hcontrol : 0x20 ≤ c.toNat) (hquote : c ≠ '"')
    (hbackslash : c ≠ '\\') (cs : List Char) :
    stringPieces? (c :: cs) =
      (stringPieces? cs).map fun (pieces, rest) ↦ (.char c :: pieces, rest) := by
  rw [stringPieces?]
  · rw [if_neg (by simp [hbackslash]; omega)]
  · exact hquote
  · intro a b c d rest h
    exact absurd h hbackslash
  · intro d rest h
    exact absurd h hbackslash

theorem stringPieces?_escape {letter c : Char} (h : escaped? letter = some c) (cs : List Char) :
    stringPieces? ('\\' :: letter :: cs) =
      (stringPieces? cs).map fun (pieces, rest) ↦ (.char c :: pieces, rest) := by
  rw [stringPieces?, h]
  intro a b c d rest hletter
  rw [hletter] at h
  cases h

theorem stringPieces?_unit {a b c d : Char} {n : Nat} (h : unit? a b c d = some n)
    (cs : List Char) :
    stringPieces? ('\\' :: 'u' :: a :: b :: c :: d :: cs) =
      (stringPieces? cs).map fun (pieces, rest) ↦ (.unit n :: pieces, rest) := by
  rw [stringPieces?, h]

/-- The pieces of a string end at its closing quote. -/
theorem stringPieces?_append {pieces : List Piece} {text : List Char}
    (h : SpelledPieces pieces text) (rest : List Char) :
    stringPieces? (text ++ '"' :: rest) = some (pieces, rest) := by
  induction h with
  | nil => rw [List.nil_append, stringPieces?]
  | cons head tail ih =>
    rw [List.append_assoc]
    cases head with
    | plain hcontrol hquote hbackslash =>
      rw [List.singleton_append, stringPieces?_char hcontrol hquote hbackslash, ih, Option.map_some]
    | escape hc =>
      rw [List.cons_append, List.singleton_append, stringPieces?_escape hc, ih, Option.map_some]
    | unit hn =>
      simp only [List.cons_append, List.nil_append]
      rw [stringPieces?_unit hn, ih, Option.map_some]

theorem spelledPieces_of_stringPieces? {cs rest : List Char} {pieces : List Piece}
    (h : stringPieces? cs = some (pieces, rest)) :
    ∃ text, cs = text ++ '"' :: rest ∧ SpelledPieces pieces text := by
  fun_induction stringPieces? cs generalizing pieces rest with
  | case1 => cases h
  | case2 =>
    cases h
    exact ⟨[], rfl, .nil⟩
  | case3 => cases h
  | case4 a b c d cs n hn ih =>
    obtain ⟨pieces, htail, rfl⟩ := exists_of_map_eq_some h
    obtain ⟨text, rfl, htext⟩ := ih htail
    exact ⟨_, rfl, .cons (.unit hn) htext⟩
  | case5 => cases h
  | case6 letter cs _ c hc ih =>
    obtain ⟨pieces, htail, rfl⟩ := exists_of_map_eq_some h
    obtain ⟨text, rfl, htext⟩ := ih htail
    exact ⟨_, rfl, .cons (.escape hc) htext⟩
  | case7 => cases h
  | case8 c cs hquote hu hb hc ih =>
    obtain ⟨pieces, htail, rfl⟩ := exists_of_map_eq_some h
    obtain ⟨text, rfl, htext⟩ := ih htail
    rw [not_or, Nat.not_lt] at hc
    exact ⟨_, rfl, .cons (.plain hc.1 hquote hc.2) htext⟩

/-! ## Numbers -/

/-- Whether a number cannot go on with a text. -/
def EndsNumber (rest : List Char) : Prop :=
  ∀ c ∈ rest.head?, c.isDigit = false ∧ c ≠ '.' ∧ c ≠ 'e' ∧ c ≠ 'E'

theorem digits?_append {digits rest : List Char} (h : IsDigits digits)
    (hrest : ∀ c ∈ rest.head?, c.isDigit = false) :
    digits? (digits ++ rest) = some (digits, rest) := by
  have hend : rest.takeWhile Char.isDigit = [] ∧ rest.dropWhile Char.isDigit = rest := by
    cases rest with
    | nil => exact ⟨rfl, rfl⟩
    | cons c cs =>
      have hc : ¬ c.isDigit = true := by simp [hrest c rfl]
      exact ⟨List.takeWhile_cons_of_neg hc, List.dropWhile_cons_of_neg hc⟩
  unfold digits?
  rw [List.takeWhile_append_of_pos h.2, List.dropWhile_append_of_pos h.2, hend.1, hend.2,
    List.append_nil]
  simp [h.1]

theorem isDigits_of_digits? {cs digits rest : List Char} (h : digits? cs = some (digits, rest)) :
    cs = digits ++ rest ∧ IsDigits digits := by
  unfold digits? at h
  dsimp only at h
  split at h
  · cases h
  · next hne =>
    cases h
    exact ⟨List.takeWhile_append_dropWhile.symm, by simpa using hne,
      fun c hc ↦ List.all_eq_true.1 List.all_takeWhile c hc⟩

theorem fractionPart?_append {fraction : Option (List Char)} {text rest : List Char}
    (h : SpelledFraction fraction text)
    (hrest : ∀ c ∈ rest.head?, c.isDigit = false ∧ c ≠ '.') :
    fractionPart? (text ++ rest) = some (fraction, rest) := by
  cases h with
  | none =>
    rw [List.nil_append, fractionPart?]
    intro cs hcs
    exact (hrest '.' (by rw [hcs]; rfl)).2 rfl
  | some h =>
    rw [List.cons_append, fractionPart?, digits?_append h fun c hc ↦ (hrest c hc).1,
      Option.map_some]

theorem spelledFraction_of_fractionPart? {cs rest : List Char} {fraction : Option (List Char)}
    (h : fractionPart? cs = some (fraction, rest)) :
    ∃ text, cs = text ++ rest ∧ SpelledFraction fraction text := by
  unfold fractionPart? at h
  split at h
  · obtain ⟨digits, hdigits, rfl⟩ := exists_of_map_eq_some h
    obtain ⟨rfl, hspelled⟩ := isDigits_of_digits? hdigits
    exact ⟨_, rfl, .some hspelled⟩
  · cases h
    exact ⟨[], rfl, .none⟩

theorem integer?_eq_some_iff {cs : List Char} {n : Int} :
    Numeral.integer? cs = some n ↔
      IsDigits (Numeral.takeSign cs).2 ∧
        Numeral.applySign (Numeral.takeSign cs).1 (Numeral.digitsValue (Numeral.takeSign cs).2) =
          n := by
  change (Numeral.natural? (Numeral.takeSign cs).2).map _ = some n ↔ _
  rw [Option.map_eq_some_iff]
  constructor
  · rintro ⟨m, hm, rfl⟩
    obtain ⟨hdigits, rfl⟩ := Numeral.natural?_eq_some_iff.1 hm
    exact ⟨hdigits, rfl⟩
  · rintro ⟨hdigits, rfl⟩
    exact ⟨_, Numeral.natural?_eq_some_iff.2 ⟨hdigits, rfl⟩, rfl⟩

theorem takeSign_append {cs : List Char} (h : cs ≠ []) (rest : List Char) :
    Numeral.takeSign (cs ++ rest) =
      ((Numeral.takeSign cs).1, (Numeral.takeSign cs).2 ++ rest) := by
  obtain ⟨c, cs, rfl⟩ := List.exists_cons_of_ne_nil h
  rw [List.cons_append]
  unfold Numeral.takeSign
  split <;> simp_all

theorem exponentPart?_cons {c : Char} (h : c = 'e' ∨ c = 'E') (cs : List Char) :
    exponentPart? (c :: cs) = (digits? (Numeral.takeSign cs).2).map fun (digits, rest) ↦
      (some (Numeral.applySign (Numeral.takeSign cs).1 (Numeral.digitsValue digits)), rest) := by
  rw [exponentPart?, if_pos h]

theorem exponentPart?_append {exponent : Option Int} {text rest : List Char}
    (h : SpelledExponent exponent text)
    (hrest : ∀ c ∈ rest.head?, c.isDigit = false ∧ c ≠ 'e' ∧ c ≠ 'E') :
    exponentPart? (text ++ rest) = some (exponent, rest) := by
  cases h with
  | none =>
    cases rest with
    | nil => rfl
    | cons c cs =>
      rw [List.nil_append, exponentPart?, if_neg (not_or_intro (hrest c rfl).2.1 (hrest c rfl).2.2)]
  | @some letter power e hletter hpower =>
    obtain ⟨hdigits, rfl⟩ := integer?_eq_some_iff.1 hpower
    have hne : power ≠ [] := by
      rintro rfl
      exact hdigits.1 rfl
    rw [List.cons_append, exponentPart?_cons hletter, takeSign_append hne,
      digits?_append hdigits fun c hc ↦ (hrest c hc).1, Option.map_some]

/-- The sign in front of digits is split off alike, whatever follows them. -/
theorem exists_takeSign_eq {cs digits rest : List Char} (hdigits : IsDigits digits)
    (h : (Numeral.takeSign cs).2 = digits ++ rest) :
    ∃ power, cs = power ++ rest ∧
      Numeral.takeSign power = ((Numeral.takeSign cs).1, digits) := by
  have hsign : (∃ body, cs = '-' :: body ∧ Numeral.takeSign cs = (true, body)) ∨
      (∃ body, cs = '+' :: body ∧ Numeral.takeSign cs = (false, body)) ∨
      Numeral.takeSign cs = (false, cs) := by
    unfold Numeral.takeSign
    split <;> simp
  rcases hsign with ⟨body, rfl, hsign⟩ | ⟨body, rfl, hsign⟩ | hsign <;> rw [hsign] at h ⊢
  · exact ⟨'-' :: digits, congrArg ('-' :: ·) h, rfl⟩
  · exact ⟨'+' :: digits, congrArg ('+' :: ·) h, rfl⟩
  · exact ⟨digits, h, Numeral.takeSign_of_isDigit hdigits.2⟩

theorem spelledExponent_of_exponentPart? {cs rest : List Char} {exponent : Option Int}
    (h : exponentPart? cs = some (exponent, rest)) :
    ∃ text, cs = text ++ rest ∧ SpelledExponent exponent text := by
  cases cs with
  | nil =>
    cases h
    exact ⟨[], rfl, .none⟩
  | cons c cs =>
    by_cases hletter : c = 'e' ∨ c = 'E'
    · rw [exponentPart?_cons hletter] at h
      obtain ⟨⟨digits, rest'⟩, hbody, heq⟩ := Option.map_eq_some_iff.1 h
      cases heq
      obtain ⟨hbody, hdigits⟩ := isDigits_of_digits? hbody
      obtain ⟨power, rfl, hpower⟩ := exists_takeSign_eq hdigits hbody
      refine ⟨c :: power, rfl, .some hletter (integer?_eq_some_iff.2 ?_)⟩
      rw [hpower]
      exact ⟨hdigits, rfl⟩
    · rw [exponentPart?, if_neg hletter] at h
      cases h
      exact ⟨[], rfl, .none⟩

theorem wholePart?_append {whole rest : List Char} (h : IsDigits whole)
    (hzero : whole.head? = some '0' → whole = ['0'])
    (hrest : ∀ c ∈ rest.head?, c.isDigit = false) :
    wholePart? (whole ++ rest) = some (whole, rest) := by
  have hleading : (whole.head? != some '0' || whole.length == 1) = true := by
    by_cases hhead : whole.head? = some '0'
    · rw [hzero hhead]
      rfl
    · simp [hhead]
  rw [wholePart?, digits?_append h hrest, Option.filter_some]
  exact if_pos hleading

theorem spelled_of_wholePart? {cs whole rest : List Char} (h : wholePart? cs = some (whole, rest)) :
    cs = whole ++ rest ∧ IsDigits whole ∧ (whole.head? = some '0' → whole = ['0']) := by
  obtain ⟨hdigits, hleading⟩ := Option.filter_eq_some_iff.1 h
  obtain ⟨rfl, hwhole⟩ := isDigits_of_digits? hdigits
  refine ⟨rfl, hwhole, fun hhead ↦ ?_⟩
  have hlength : whole.length = 1 := by simpa [hhead] using hleading
  obtain ⟨c, rfl⟩ := List.length_eq_one_iff.1 hlength
  rw [Option.some.inj hhead]

/-- A power of ten, or what follows a number without one, does not go on with its digits. -/
theorem head?_exponent {exponent : Option Int} {text rest : List Char}
    (h : SpelledExponent exponent text) (hrest : EndsNumber rest) :
    ∀ c ∈ (text ++ rest).head?, c.isDigit = false ∧ c ≠ '.' := by
  intro c hc
  cases h with
  | none => exact ⟨(hrest c hc).1, (hrest c hc).2.1⟩
  | some hletter =>
    cases hc
    rcases hletter with rfl | rfl <;> decide

theorem head?_fraction {fraction : Option (List Char)} {text rest : List Char}
    (h : SpelledFraction fraction text) (hrest : ∀ c ∈ rest.head?, c.isDigit = false) :
    ∀ c ∈ (text ++ rest).head?, c.isDigit = false := by
  intro c hc
  cases h with
  | none => exact hrest c hc
  | some =>
    cases hc
    decide

/-- A number is read up to where it cannot go on. -/
theorem number?_append {n : NumberText} {body rest : List Char} (h : n.SpelledBody body)
    (hrest : EndsNumber rest) : number? n.negative (body ++ rest) = some (n, rest) := by
  obtain ⟨hwhole, hzero, fraction, exponent, hfraction, hexponent, rfl⟩ := h
  have hhead := head?_exponent hexponent hrest
  have hwhole := wholePart?_append hwhole hzero (head?_fraction hfraction fun c hc ↦ (hhead c hc).1)
  have hfraction := fractionPart?_append hfraction hhead
  have hexponent := exponentPart?_append hexponent fun c hc ↦
    ⟨(hrest c hc).1, (hrest c hc).2.2⟩
  rw [List.append_assoc, List.append_assoc]
  simp only [number?, hwhole, hfraction, hexponent, Option.bind_eq_bind, Option.bind_some]
  rfl

theorem spelledBody_of_number? {negative : Bool} {cs rest : List Char} {n : NumberText}
    (h : number? negative cs = some (n, rest)) :
    n.negative = negative ∧ ∃ body, cs = body ++ rest ∧ n.SpelledBody body := by
  simp only [number?, Option.bind_eq_bind, Option.bind_eq_some_iff, Option.pure_def,
    Option.some.injEq, Prod.mk.injEq, Prod.exists] at h
  obtain ⟨whole, r, hwhole, fraction, r', hfraction, exponent, r'', hexponent, rfl, rfl⟩ := h
  obtain ⟨rfl, hdigits, hzero⟩ := spelled_of_wholePart? hwhole
  obtain ⟨fractionText, rfl, hspelled⟩ := spelledFraction_of_fractionPart? hfraction
  obtain ⟨exponentText, rfl, hpower⟩ := spelledExponent_of_exponentPart? hexponent
  refine ⟨rfl, whole ++ fractionText ++ exponentText, ?_, hdigits, hzero, fractionText,
    exponentText, hspelled, hpower, rfl⟩
  simp only [List.append_assoc]

/-! ## Tokens -/

def Token.isNumber : Token → Bool
  | .number _ => true
  | _ => false

theorem token?_of_isDigit {c : Char} (h : c.isDigit = true) (cs : List Char) :
    token? (c :: cs) = (number? false (c :: cs)).map fun (n, rest) ↦ (.number n, rest) := by
  unfold token?
  split
  case h_12 => rfl
  all_goals
    next heq =>
      rw [(List.cons.inj heq).1] at h
      exact absurd h (by decide)

theorem head?_spelledBody {n : NumberText} {body : List Char} (h : n.SpelledBody body) :
    ∃ c cs, body = c :: cs ∧ c.isDigit = true := by
  obtain ⟨hwhole, -, fraction, exponent, -, -, rfl⟩ := h
  obtain ⟨c, cs, hcs⟩ := List.exists_cons_of_ne_nil hwhole.1
  refine ⟨c, cs ++ fraction ++ exponent, by rw [hcs]; rfl, hwhole.2 c ?_⟩
  rw [hcs]
  exact List.mem_cons_self

/-- A token is read up to its end, if a number cannot go on there. -/
theorem token?_append {t : Token} {word rest : List Char} (h : t.Spelled word)
    (hrest : t.isNumber = true → EndsNumber rest) : token? (word ++ rest) = some (t, rest) := by
  cases h with
  | @negative n body hsign hbody =>
    rw [List.cons_append, token?, ← hsign, number?_append hbody (hrest rfl), Option.map_some]
  | @nonnegative n body hsign hbody =>
    have hread := number?_append hbody (hrest rfl)
    obtain ⟨c, cs, rfl, hc⟩ := head?_spelledBody hbody
    rw [List.cons_append, token?_of_isDigit hc, ← List.cons_append, ← hsign, hread,
      Option.map_some]
  | string h =>
    rw [List.append_assoc, List.cons_append, token?, List.singleton_append, stringPieces?_append h,
      Option.map_some]
  | _ => rfl

theorem spelled_of_token? {cs rest : List Char} {t : Token} (h : token? cs = some (t, rest)) :
    ∃ word, cs = word ++ rest ∧ t.Spelled word := by
  unfold token? at h
  split at h
  case h_10 =>
    obtain ⟨pieces, hpieces, rfl⟩ := exists_of_map_eq_some h
    obtain ⟨text, rfl, htext⟩ := spelledPieces_of_stringPieces? hpieces
    exact ⟨'"' :: text ++ ['"'], by simp, .string htext⟩
  case h_11 =>
    obtain ⟨n, hnumber, rfl⟩ := exists_of_map_eq_some h
    obtain ⟨hsign, body, rfl, hbody⟩ := spelledBody_of_number? hnumber
    exact ⟨'-' :: body, rfl, .negative hsign hbody⟩
  case h_12 =>
    obtain ⟨n, hnumber, rfl⟩ := exists_of_map_eq_some h
    obtain ⟨hsign, body, rfl, hbody⟩ := spelledBody_of_number? hnumber
    exact ⟨body, rfl, .nonnegative hsign hbody⟩
  all_goals cases h
  · exact ⟨['{'], rfl, .beginObject⟩
  · exact ⟨['}'], rfl, .endObject⟩
  · exact ⟨['['], rfl, .beginArray⟩
  · exact ⟨[']'], rfl, .endArray⟩
  · exact ⟨[':'], rfl, .colon⟩
  · exact ⟨[','], rfl, .comma⟩
  · exact ⟨['n', 'u', 'l', 'l'], rfl, .null⟩
  · exact ⟨['t', 'r', 'u', 'e'], rfl, .true⟩
  · exact ⟨['f', 'a', 'l', 's', 'e'], rfl, .false⟩

theorem isBlank_iff {c : Char} : isBlank c = true ↔ c = ' ' ∨ c = '\t' ∨ c = '\n' ∨ c = '\r' := by
  simp [isBlank, or_assoc]

theorem head?_spelled {t : Token} {word : List Char} (h : t.Spelled word) :
    ∃ c cs, word = c :: cs ∧ isBlank c = false := by
  cases h with
  | nonnegative _ hbody =>
    obtain ⟨c, cs, rfl, hc⟩ := head?_spelledBody hbody
    refine ⟨c, cs, rfl, Bool.eq_false_iff.2 fun hblank ↦ ?_⟩
    rcases isBlank_iff.1 hblank with rfl | rfl | rfl | rfl <;> exact absurd hc (by decide)
  | string => exact ⟨_, _, rfl, by decide⟩
  | _ => exact ⟨_, _, rfl, by decide⟩

end GameShelf.Json
