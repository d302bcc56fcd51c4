import GameShelf.Proofs.Query.Join
import GameShelf.Proofs.Query.WellShaped

/-!
# Filters on columns of whole numbers

A filter that compares a column of whole numbers with a written number keeps the games whose number
stands in that relation to it, and nothing about this depends on how the number is written or on
the blanks that are left out or put in. A number of more than 32 bits is an error, and so is every
other value, as long as it is plain: a token, a comma or an equals sign right after the operator
would make another clause of it.
-/

namespace GameShelf

/-! ## Relations of whole numbers -/

def Operator.relates : Operator → Int → Int → Bool
  | ge, n, k => k ≤ n
  | le, n, k => n ≤ k
  | eq, n, k => n = k
  | ne, n, k => n ≠ k
  | gt, n, k => k < n
  | lt, n, k => n < k
  | contains, _, _ => false

theorem Operator.holds_compare (op : Operator) (n k : Int) :
    op.holds (compare n k) = op.relates n k := by
  rw [Bool.eq_iff_iff]
  cases op <;> simp [holds, relates, Std.compare_eq_lt, Std.compare_eq_gt]

/-- The whole number that a game holds in a column; zero in a column without whole numbers. -/
def Column.wholeNumber (column : Column) (game : Game) : Int :=
  match column with
  | minPlayers => game.minPlayers.toInt
  | maxPlayers => game.maxPlayers.toInt
  | year => game.yearPublished.toInt
  | _ => 0

/-- A clause on a column of whole numbers compares whole numbers. -/
theorem accepts_eq_relates {column : Column} (hkind : column.kind? = some .integer)
    (op : Operator) (k : Int) (game : Game) :
    Clause.accepts ⟨column, op, .number (.integer k)⟩ game =
      op.relates (column.wholeNumber game) k := by
  rw [← op.holds_compare]
  cases column with
  | minPlayers | maxPlayers | year => rfl
  | name | id | minTime | maxTime | difficulty | rank | rating => cases hkind

/-! ## Written values -/

theorem Literal.ofText?_of_writesSigned {value : String} {k : Int}
    (h : Numeral.WritesSigned value.toList k) :
    ofText? .integer value =
      if -0x80000000 ≤ k ∧ k < 0x80000000 then some (.number (.integer k)) else none := by
  rw [ofText?, Numeral.integer?_eq_some_iff_writesSigned.2 h, Option.filter_some]
  simp only [fitsInt32_iff]
  split <;> rfl

theorem Literal.ofText?_of_forall_not_writesSigned {value : String}
    (h : ∀ k, ¬ Numeral.WritesSigned value.toList k) : ofText? .integer value = none := by
  have hread : Numeral.integer? value.toList = none := by
    apply Option.eq_none_iff_forall_ne_some.2
    intro k hk
    exact h k (Numeral.integer?_eq_some_iff_writesSigned.1 hk)
  rw [ofText?, hread]
  rfl

/-- A text that makes no other clause of what it ends: no token occurs in it, no comma ends the
clause within it, and its first character does not go on with the operator before it. -/
structure PlainValue (text : List Char) : Prop where
  no_token : ∀ op : Operator, ¬ op.token <:+: text
  no_comma : ',' ∉ text
  no_equals : text.head? ≠ some '='

/-- A text without signs and commas is plain. -/
theorem plainValue_of_forall {text : List Char} (hsign : ∀ c ∈ text, Operator.isSign c = false)
    (hcomma : ',' ∉ text) : PlainValue text where
  no_token op hwithin := by
    obtain ⟨c, hc, htrue⟩ := Operator.exists_isSign_of_infix hwithin
    rw [hsign c hc] at htrue
    exact absurd htrue (by decide)
  no_comma := hcomma
  no_equals hhead := absurd (hsign '=' (List.mem_of_mem_head? hhead)) (by decide)

/-- A written number is plain, with any blanks around it. -/
theorem plainValue_of_writesSigned {text : List Char} {k : Int}
    (h : Numeral.WritesSigned (Text.strip text) k) : PlainValue text := by
  have hmark : ∀ c ∈ text, Text.isBlank c = true ∨ Numeral.isMark c = true := by
    intro c hc
    apply (Text.isBlank_or_mem_strip hc).imp_right
    exact List.all_eq_true.1
      (Numeral.all_isMark_of_integer? (Numeral.integer?_eq_some_iff_writesSigned.2 h)) c
  apply plainValue_of_forall
  · intro c hc
    rcases hmark c hc with hblank | hmark
    · exact Operator.isSign_of_isBlank hblank
    · exact Operator.isSign_of_isMark hmark
  · intro hcomma
    exact absurd (hmark ',' hcomma) (by decide)

/-- What is plain stays so when its end is left out. -/
theorem PlainValue.of_append {text rest : List Char} (h : PlainValue (text ++ rest))
    (hne : text ≠ []) : PlainValue text where
  no_token op hwithin := h.no_token op (hwithin.trans (List.prefix_append text rest).isInfix)
  no_comma hcomma := h.no_comma (List.mem_append_left rest hcomma)
  no_equals := by
    rw [← List.head?_append_of_ne_nil text hne]
    exact h.no_equals

theorem Operator.tail_token (op : Operator) : op.token.tail = [] ∨ op.token.tail = ['='] := by
  cases op <;> decide

/-- A token can only be divided before its equals sign. -/
theorem Operator.eq_equals_of_token_eq_append {op : Operator} {left right : List Char}
    (h : op.token = left ++ right) (hleft : left ≠ []) (hright : right ≠ []) : right = ['='] := by
  obtain ⟨c, left, rfl⟩ := List.exists_cons_of_ne_nil hleft
  have htail := op.tail_token
  rw [h, List.cons_append, List.tail_cons] at htail
  rcases htail with hnil | hequals
  · exact absurd (List.append_eq_nil_iff.1 hnil).2 hright
  · rcases List.append_eq_singleton_iff.1 hequals with ⟨-, heq⟩ | ⟨-, hnil⟩
    · exact heq
    · exact absurd hnil hright

/-- No token reaches over the end of an operator into a plain value. -/
theorem PlainValue.infix_token_append_iff {text : List Char} (h : PlainValue text)
    (op op' : Operator) : op'.token <:+: op.token ++ text ↔ op'.token <:+: op.token := by
  constructor
  · intro hwithin
    rcases List.infix_append_iff.1 hwithin with htoken | htext | ⟨left, right, hparts, hleft, hright⟩
    · exact htoken
    · exact absurd htext (h.no_token op')
    · by_cases hnil : left = []
      · rw [hnil, List.nil_append] at hparts
        exact absurd (hparts ▸ hright.isInfix) (h.no_token op')
      by_cases hnil' : right = []
      · rw [hparts, hnil', List.append_nil]
        exact hleft.isInfix
      · rw [Operator.eq_equals_of_token_eq_append hparts hnil hnil'] at hright
        obtain ⟨rest, rfl⟩ := hright
        exact absurd rfl h.no_equals
  · intro htoken
    exact htoken.trans (List.prefix_append _ _).isInfix

/-! ## Clauses with a plain value -/

/-- An operator stands between a name, perhaps with blanks around it, and a text. -/
inductive Operator.Between (op : Operator) (name text : List Char) : List Char → Prop where
  | mk {left middle : List Char} (hleft : ∀ c ∈ left, Text.isBlank c = true)
      (hmiddle : ∀ c ∈ middle, Text.isBlank c = true) :
      Between op name text (left ++ name ++ middle ++ op.token ++ text)

/-- A plain value is read with the operator before it. -/
theorem Reading.ofText_of_plainValue {F : Type} [Schema F] {s : String} {op : Operator}
    {before text : List Char} (hs : s.toList = before ++ op.token ++ text)
    (hbefore : ∀ c ∈ before, Operator.isSign c = false) (htext : PlainValue text)
    (hname : Text.strip before ≠ []) (hvalue : Text.strip text ≠ []) :
    (ofText s : Reading F) =
      ofParts (String.ofList (Text.strip before)) op (String.ofList (Text.strip text)) := by
  have hplain (op' : Operator) : ∀ c ∈ before, c ∉ op'.token :=
    fun c hc ↦ Operator.not_mem_token_of_isSign (hbefore c hc) op'
  have hfind : Operator.find? s.toList = some op := by
    apply Operator.find?_eq_some_iff.2
    refine ⟨⟨before, text, hs.symm⟩, ?_⟩
    intro op' hop' hwithin
    rw [hs, List.append_assoc, Text.infix_append_iff_of_forall op'.token_ne_nil (hplain op'),
      htext.infix_token_append_iff] at hwithin
    exact Operator.not_infix_token_of_mem_above hop' hwithin
  have hsplit : Text.splitOnce? op.token s.toList = some (before, text) := by
    rw [Text.splitOnce?, hs, Text.cut?_append op.token_ne_nil (hplain op), Option.filter_some,
      if_pos]
    rw [Bool.not_eq_true', ← Bool.not_eq_true, Text.occurs_iff]
    exact htext.no_token op
  have hempty : ((Text.strip before).isEmpty || (Text.strip text).isEmpty) = false := by
    rw [List.isEmpty_eq_false_iff.2 hname, List.isEmpty_eq_false_iff.2 hvalue]
    rfl
  rw [ofText, hfind]
  dsimp only
  rw [hsplit]
  dsimp only
  rw [hempty, if_neg Bool.false_ne_true]

/-- An expression without commas is a single clause. -/
theorem result_compile_of_no_comma {F : Type} [Schema F] {expression : String}
    (h : ',' ∉ expression.toList) :
    (compile expression : Compilation F).result =
      (Compilation.cons (Text.trim expression) .empty : Compilation F).result := by
  have htexts : clauseTexts expression = [Text.trim expression] := by
    rw [clauseTexts, List.splitOn_eq_singleton h, List.map_singleton, Text.trim]
  calc
    (compile expression : Compilation F).result =
        (Compilation.ofClauses (clauseTexts expression) : Compilation F).result := by
      rw [ofClauses_clauseTexts]
    _ = (Compilation.cons (Text.trim expression) .empty : Compilation F).result := by
      rw [htexts, Compilation.ofClauses, List.foldr_cons, List.foldr_nil]

section Columns

variable {name text expression : String} {column : Column} {kind : Kind} {op : Operator}
  (hname : Text.fold name ∈ column.aliases)
  (hexpression : op.Between name.toList text.toList expression.toList)
  (htext : PlainValue text.toList)

include hname hexpression htext

theorem no_comma_of_between : ',' ∉ expression.toList := by
  generalize hcs : expression.toList = cs at hexpression
  obtain ⟨hleft, hmiddle⟩ := hexpression
  have hblank {cs : List Char} (h : ∀ c ∈ cs, Text.isBlank c = true) : ',' ∉ cs :=
    fun hcomma ↦ absurd (h ',' hcomma) (by decide)
  have hletters : ',' ∉ name.toList :=
    fun hcomma ↦ absurd (Column.isLower_toLower_of_mem_name hname hcomma) (by decide)
  have htoken : ',' ∉ op.token :=
    fun hcomma ↦ absurd (Operator.isSign_of_mem_token hcomma) (by decide)
  simp only [List.mem_append, not_or]
  exact ⟨⟨⟨⟨hblank hleft, hletters⟩, hblank hmiddle⟩, htoken⟩, htext.no_comma⟩

/-- Without the blanks at its ends a clause begins with the name and ends with the value. -/
theorem exists_toList_trim_eq (hne : Text.trim text ≠ "") :
    ∃ middle right : List Char, (∀ c ∈ middle, Text.isBlank c = true) ∧
      (∀ c ∈ right, Text.isBlank c = true) ∧
      PlainValue (right ++ (Text.trim text).toList) ∧
      (Text.trim expression).toList =
        name.toList ++ middle ++ op.token ++ (right ++ (Text.trim text).toList) := by
  generalize hcs : expression.toList = cs at hexpression
  obtain @⟨left, middle, hleft, hmiddle⟩ := hexpression
  obtain ⟨right, last, hparts, hright, hlast⟩ := Text.exists_eq_append_strip text.toList
  have hvalue : Text.strip text.toList ≠ [] := by
    rwa [← Text.toList_trim, Ne, String.toList_eq_nil_iff]
  have hplain : PlainValue (right ++ Text.strip text.toList) := by
    rw [hparts] at htext
    exact htext.of_append (List.append_ne_nil_of_right_ne_nil _ hvalue)
  rw [← Text.toList_trim] at hparts hvalue hplain
  refine ⟨middle, right, hmiddle, hright, hplain, ?_⟩
  have hwhole : expression.toList = left ++ (name.toList ++ (middle ++ op.token ++ right) ++
      (Text.trim text).toList) ++ last := by
    rw [hcs, hparts]
    simp only [List.append_assoc]
  calc
    (Text.trim expression).toList =
        Text.strip (name.toList ++ (middle ++ op.token ++ right) ++ (Text.trim text).toList) := by
      rw [Text.toList_trim, hwhole, Text.strip_append hleft hlast]
    _ = name.toList ++ (middle ++ op.token ++ right) ++ (Text.trim text).toList :=
      Text.strip_append_of_ends (Column.strip_of_mem_aliases hname)
        (Column.name_ne_nil_of_mem_aliases hname) (by simp) hvalue _
    _ = name.toList ++ middle ++ op.token ++ (right ++ (Text.trim text).toList) := by
      simp only [List.append_assoc]

/-- Blanks at the ends of a clause and around its operator do not matter. -/
theorem ofText_between (hne : Text.trim text ≠ "") :
    (Reading.ofText (Text.trim expression) : Reading Column) =
      Reading.ofParts name op (Text.trim text) := by
  obtain ⟨middle, right, hmiddle, hright, hplain, htrim⟩ :=
    exists_toList_trim_eq hname hexpression htext hne
  have hsigns : ∀ c ∈ name.toList ++ middle, Operator.isSign c = false :=
    List.forall_mem_append.2
      ⟨Column.isSign_of_mem_aliases hname, fun c hc ↦ Operator.isSign_of_isBlank (hmiddle c hc)⟩
  have hbefore : Text.strip (name.toList ++ middle) = name.toList := by
    rw [Text.strip_append_right hmiddle, Column.strip_of_mem_aliases hname]
  have hafter : Text.strip (right ++ (Text.trim text).toList) = (Text.trim text).toList := by
    rw [Text.strip_append_left hright, Text.toList_trim, Text.strip_strip]
  have hread := Reading.ofText_of_plainValue (F := Column) htrim hsigns hplain
  rw [hbefore, hafter, String.ofList_toList, String.ofList_toList] at hread
  apply hread (Column.name_ne_nil_of_mem_aliases hname)
  rwa [Ne, String.toList_eq_nil_iff]

/-- A filter whose value denotes a literal keeps the games that the clause accepts, and a filter
whose value denotes nothing fails. -/
theorem filterGames_between (hkind : column.kind? = some kind) (happlies : op.appliesTo kind = true)
    (hne : Text.trim text ≠ "") (games : List Game) :
    filterGames expression games =
      match Literal.ofText? kind (Text.trim text) with
      | some literal => .ok (games.filter (⟨column, op, literal⟩ : Clause Column).accepts)
      | none => .error (.invalidValue column.canonicalName (Text.trim text) kind) := by
  have hresult := result_compile_of_no_comma (F := Column)
    (no_comma_of_between hname hexpression htext)
  rw [Compilation.cons, ofText_between hname hexpression htext hne, Reading.ofParts,
    Column.queryable?_of_mem_aliases hname hkind] at hresult
  dsimp only at hresult
  rw [if_pos happlies] at hresult
  cases hliteral : Literal.ofText? kind (Text.trim text) with
  | none =>
    rw [hliteral] at hresult
    exact filterGames_of_error hresult games
  | some literal =>
    rw [hliteral] at hresult
    rw [filterGames_of_ok hresult]
    congr 1
    apply List.filter_congr
    intro game _
    exact Bool.and_true _

end Columns

/-- A filter that compares a column of whole numbers with a written number keeps, in their order,
the games whose number stands in that relation to it. It fails if the number has more than 32 bits.
A filter with any other value that is plain and not blank fails too. Both errors quote the value
without the blanks around it, and neither looks at the games. -/
theorem filterGames_wholeNumber {name text expression : String} {column : Column} {op : Operator}
    (hname : Text.fold name ∈ column.aliases) (hkind : column.kind? = some .integer)
    (hop : op.isNumeric = true)
    (hexpression : op.Between name.toList text.toList expression.toList) (games : List Game) :
    (∀ k, Numeral.WritesSigned (Text.trim text).toList k →
        (-0x80000000 ≤ k ∧ k < 0x80000000 →
          filterGames expression games =
            .ok (games.filter fun game ↦ op.relates (column.wholeNumber game) k)) ∧
        (¬ (-0x80000000 ≤ k ∧ k < 0x80000000) →
          filterGames expression games =
            .error (.invalidValue column.canonicalName (Text.trim text) .integer))) ∧
      ((∀ k, ¬ Numeral.WritesSigned (Text.trim text).toList k) → PlainValue text.toList →
        Text.trim text ≠ "" →
        filterGames expression games =
          .error (.invalidValue column.canonicalName (Text.trim text) .integer)) := by
  constructor
  · intro k hk
    have hplain : PlainValue text.toList := by
      rw [Text.toList_trim] at hk
      exact plainValue_of_writesSigned hk
    have hne : Text.trim text ≠ "" := by
      intro hempty
      rw [hempty] at hk
      exact Numeral.ne_nil_of_integer? (Numeral.integer?_eq_some_iff_writesSigned.2 hk) rfl
    rw [filterGames_between hname hexpression hplain hkind hop hne,
      Literal.ofText?_of_writesSigned hk]
    constructor
    · intro hbits
      rw [if_pos hbits]
      dsimp only
      congr 1
      apply List.filter_congr
      intro game _
      exact accepts_eq_relates hkind op k game
    · intro hbits
      rw [if_neg hbits]
  · intro hnone hplain hne
    rw [filterGames_between hname hexpression hplain hkind hop hne,
      Literal.ofText?_of_forall_not_writesSigned hnone]

/-- Zeros before a number and blanks around it do not matter; a number with one bit too many and a
value with a lone equals sign are errors, even of an empty list. -/
theorem filterGames_wholeNumber_spellings :
    let go : Game := { Game.named "Go" with yearPublished := -7 }
    let ur : Game := { Game.named "Ur" with yearPublished := -2600 }
    Text.fold "YearPublished" ∈ Column.year.aliases ∧ Column.year.kind? = some .integer ∧
      (Operator.ge.Between "YearPublished".toList " -0007\t".toList
          "\tYearPublished>= -0007\t".toList ∧
        Numeral.WritesSigned (Text.trim " -0007\t").toList (-7) ∧
        filterGames "\tYearPublished>= -0007\t" [go, ur, Game.named "Chess"] =
          .ok [go, Game.named "Chess"]) ∧
      (Operator.lt.Between "YearPublished".toList "+2147483648".toList
          "\tYearPublished<+2147483648".toList ∧
        Numeral.WritesSigned (Text.trim "+2147483648").toList 0x80000000 ∧
        filterGames "\tYearPublished<+2147483648" [] =
          .error (.invalidValue "year" "+2147483648" .integer)) ∧
      Operator.eq.Between "YearPublished".toList "5=".toList "\tYearPublished==5=".toList ∧
        PlainValue "5=".toList ∧
        filterGames "\tYearPublished==5=" [] = .error (.invalidValue "year" "5=" .integer) := by
  intro go ur
  have hname : Text.fold "YearPublished" ∈ Column.year.aliases := by decide +kernel
  have hkind : Column.year.kind? = some .integer := rfl
  have hbetween {op : Operator} {text expression : String}
      (h : expression.toList =
        ['\t'] ++ "YearPublished".toList ++ [] ++ op.token ++ text.toList) :
      op.Between "YearPublished".toList text.toList expression.toList := by
    rw [h]
    exact .mk (List.forall_mem_singleton.2 rfl) fun _ hc ↦ nomatch hc
  have hge : Operator.ge.Between "YearPublished".toList " -0007\t".toList
      "\tYearPublished>= -0007\t".toList := hbetween (by decide +kernel)
  have hlt : Operator.lt.Between "YearPublished".toList "+2147483648".toList
      "\tYearPublished<+2147483648".toList := hbetween (by decide +kernel)
  have heq : Operator.eq.Between "YearPublished".toList "5=".toList
      "\tYearPublished==5=".toList := hbetween (by decide +kernel)
  have hseven : Numeral.WritesSigned (Text.trim " -0007\t").toList (-7) :=
    Numeral.integer?_eq_some_iff_writesSigned.1 (by decide +kernel)
  have hlarge : Numeral.WritesSigned (Text.trim "+2147483648").toList 0x80000000 :=
    Numeral.integer?_eq_some_iff_writesSigned.1 (by decide +kernel)
  have hplain : PlainValue "5=".toList := by
    refine ⟨?_, by decide +kernel, by decide +kernel⟩
    intro op
    rw [← Text.occurs_iff]
    cases op <;> decide +kernel
  have hnone : ∀ k, ¬ Numeral.WritesSigned (Text.trim "5=").toList k := by
    intro k hk
    have hread : Numeral.integer? (Text.trim "5=").toList = none := by decide +kernel
    rw [Numeral.integer?_eq_some_iff_writesSigned.2 hk] at hread
    cases hread
  refine ⟨hname, hkind, ⟨hge, hseven, ?_⟩, ⟨hlt, hlarge, ?_⟩, heq, hplain, ?_⟩
  · rw [((filterGames_wholeNumber hname hkind rfl hge _).1 _ hseven).1 (by decide)]
    decide +kernel
  · rw [((filterGames_wholeNumber hname hkind rfl hlt _).1 _ hlarge).2 (by decide)]
    decide +kernel
  · rw [(filterGames_wholeNumber hname hkind rfl heq _).2 hnone hplain (by decide +kernel)]
    decide +kernel

end GameShelf
