import GameShelf.Proofs.Json.Token
import Mathlib.Data.List.Chain
import Mathlib.Data.List.TakeWhile

/-!
# Cutting a text into its tokens

A text that spells a row of tokens is cut into them, whatever the blanks are, as long as no number
directly follows a number. The tokens of a value never do. The other way round, a text is spelled by
the tokens that it is cut into, unless it goes on with no token.
-/

namespace GameShelf.Json

/-! ## The first token -/

theorem tokens_eq_nil {cs : List Char} (h : cs.dropWhile isBlank = []) : tokens cs = [] := by
  rw [tokens]
  split <;> simp_all

theorem tokens_eq_cons {c : Char} {cs ds rest : List Char} {t : Token}
    (h : cs.dropWhile isBlank = c :: ds) (htoken : token? (c :: ds) = some (t, rest)) :
    tokens cs = t :: tokens rest := by
  rw [tokens]
  split
  · simp_all
  · split <;> simp_all

theorem tokens_append {blanks word rest : List Char} {t : Token} (hblanks : ∀ c ∈ blanks, isBlank c)
    (hword : t.Spelled word) (hrest : t.isNumber = true → EndsNumber rest) :
    tokens (blanks ++ word ++ rest) = t :: tokens rest := by
  have htoken := token?_append hword hrest
  obtain ⟨c, cs, rfl, hc⟩ := head?_spelled hword
  have hdrop : (blanks ++ (c :: cs) ++ rest).dropWhile isBlank = c :: (cs ++ rest) := by
    rw [List.append_assoc, List.dropWhile_append_of_pos hblanks, List.cons_append,
      List.dropWhile_cons_of_neg (Bool.not_eq_true _ ▸ hc)]
  exact tokens_eq_cons hdrop htoken

/-- A number cannot go on with a text that begins with a blank or with another kind of token. -/
theorem endsNumber_of_spelled {ts : List Token} {cs : List Char} (h : Spelled ts cs)
    (hfirst : ∀ t ∈ ts.head?, t.isNumber = false) : EndsNumber cs := by
  have hblank (blanks rest : List Char) (hblanks : ∀ c ∈ blanks, isBlank c)
      (hrest : EndsNumber rest) : EndsNumber (blanks ++ rest) := by
    cases blanks with
    | nil => exact hrest
    | cons b blanks =>
      intro c hc
      cases hc
      rcases isBlank_iff.1 (hblanks b List.mem_cons_self) with rfl | rfl | rfl | rfl <;> decide
  cases h with
  | nil hblanks =>
    rw [← List.append_nil cs]
    exact hblank cs [] hblanks nofun
  | cons hblanks head tail =>
    rw [List.append_assoc]
    refine hblank _ _ hblanks fun c hc ↦ ?_
    have hnumber := hfirst _ rfl
    cases head with
    | negative | nonnegative => cases hnumber
    | _ =>
      cases hc
      decide

/-! ## Numbers apart -/

/-- No number directly follows a number. -/
def Separated (ts : List Token) : Prop :=
  ts.IsChain fun t u ↦ t.isNumber = true → u.isNumber = false

theorem separated_append_cons {ts us : List Token} {t : Token} (ht : t.isNumber = false)
    (hts : Separated ts) (hus : Separated us) : Separated (ts ++ t :: us) := by
  refine List.isChain_append.2 ⟨hts, List.isChain_cons.2 ⟨fun u _ hnumber ↦ ?_, hus⟩, ?_⟩
  · rw [ht] at hnumber
    cases hnumber
  · intro u _ v hv _
    cases hv
    exact ht

theorem separated_enclosed {ts : List Token} {first last : Token} (hfirst : first.isNumber = false)
    (hlast : last.isNumber = false) (hts : Separated ts) : Separated (first :: ts ++ [last]) :=
  separated_append_cons hlast (separated_append_cons hfirst .nil hts) .nil

theorem separated_intercalate {rows : List (List Token)} (h : ∀ row ∈ rows, Separated row) :
    Separated ([.comma].intercalate rows) := by
  induction rows with
  | nil => exact .nil
  | cons row rows ih =>
    obtain ⟨hrow, hrows⟩ := List.forall_mem_cons.1 h
    cases rows with
    | nil => rwa [List.intercalate_singleton]
    | cons next rows =>
      rw [List.intercalate_cons_cons, List.append_assoc]
      exact separated_append_cons rfl hrow (ih hrows)

/-- The tokens of a value can be told apart. -/
theorem separated_of_isValue {value : List Token} (h : IsValue value) : Separated value := by
  induction h with
  | scalar h => exact .singleton _
  | array _ ih => exact separated_enclosed rfl rfl (separated_intercalate ih)
  | object _ ih =>
    refine separated_enclosed rfl rfl (separated_intercalate ?_)
    rintro row hrow
    obtain ⟨m, hm, rfl⟩ := List.mem_map.1 hrow
    change Separated ([.string m.key] ++ .colon :: m.value)
    exact separated_append_cons rfl (.singleton _) (ih m hm)

/-! ## All tokens -/

/-- A text that spells tokens is cut into them. -/
theorem tokens_of_spelled {ts : List Token} {cs : List Char} (h : Spelled ts cs)
    (hseparated : Separated ts) : tokens cs = ts := by
  induction h with
  | nil hblanks => exact tokens_eq_nil (List.dropWhile_eq_nil_iff.2 hblanks)
  | cons hblanks head tail ih =>
    obtain ⟨hnext, hrest⟩ := List.isChain_cons.1 hseparated
    rw [tokens_append hblanks head fun hnumber ↦
      endsNumber_of_spelled tail fun u hu ↦ hnext u hu hnumber, ih hrest]

theorem tokens_of_spelled_value {value : List Token} {cs : List Char} (h : IsValue value)
    (hspelled : Spelled value cs) : tokens cs = value :=
  tokens_of_spelled hspelled (separated_of_isValue h)

/-- A text is spelled by the tokens that it is cut into, unless it goes on with none. -/
theorem spelled_tokens {cs : List Char} (h : Token.malformed ∉ tokens cs) :
    Spelled (tokens cs) cs := by
  fun_induction tokens cs with
  | case1 cs hdrop => exact .nil (List.dropWhile_eq_nil_iff.1 hdrop)
  | case2 => exact absurd List.mem_cons_self h
  | case3 cs c ds hdrop t rest htoken ih =>
    obtain ⟨word, hword, hspelled⟩ := spelled_of_token? htoken
    have hcs : cs = cs.takeWhile isBlank ++ word ++ rest := by
      rw [List.append_assoc, ← hword, ← hdrop, List.takeWhile_append_dropWhile]
    rw [hcs]
    exact .cons (fun d hd ↦ List.all_eq_true.1 List.all_takeWhile d hd) hspelled
      (ih (List.not_mem_of_not_mem_cons h))

end GameShelf.Json
