import BenchQueue.Database.Condition

/-!
# What the text of a statement says

A statement is read from its text: its words, the placeholders among them, and the comparisons that
follow the word `WHERE`. A conjunction of conditions reads as one comparison for each condition, its
placeholders are numbered from one without a gap, and on a row that shows a record the comparisons,
with the bound values in the place of the placeholders, hold when the conditions hold of the record.
-/

namespace BenchQueue.Database

/-! ## Words -/

/-- A character between words. -/
def isGap (c : Char) : Bool := c = ' ' || c = ',' || c = '(' || c = ')'

/-- The words of a text. -/
def words (sql : String) : List String :=
  ((sql.toList.splitOnP isGap).filter (· ≠ [])).map String.ofList

/-- Whether a word contains the sign of a placeholder. -/
def holdsPlace (word : String) : Bool := word.toList.contains '$'

/-- The words of a text with a placeholder. -/
def placeholders (sql : String) : List String := (words sql).filter holdsPlace

/-- The words of two texts with a gap between them are those of the first and then those of the
second. -/
theorem words_append_gap {c : Char} (hgap : isGap c = true) (a b : String) :
    words (a ++ String.singleton c ++ b) = words a ++ words b := by
  have hchars : (a ++ String.singleton c ++ b).toList = a.toList ++ c :: b.toList := by simp
  unfold words
  rw [hchars, List.splitOnP_append_cons _ _ hgap, List.filter_append, List.map_append]

/-- A blank separates the words of two texts. -/
theorem words_append_blank (a b : String) : words (a ++ " " ++ b) = words a ++ words b :=
  words_append_gap (c := ' ') (by decide) a b

/-- A text without gaps is one word. -/
theorem words_eq_singleton {word : String} (hne : word ≠ "")
    (hgap : ∀ c ∈ word.toList, isGap c = false) : words word = [word] := by
  have hchars : word.toList ≠ [] := by simpa using hne
  unfold words
  rw [List.splitOnP_eq_singleton hgap]
  simp [hchars]

/-! ## Comparisons -/

/-- How a comparison relates its column and its side. -/
inductive Relation
  | same
  | different
  deriving DecidableEq, Repr

/-- The sign of a relation. -/
def Relation.sign : Relation → String
  | .same => "="
  | .different => "<>"

/-- The relation with a sign. -/
def Relation.read? : String → Option Relation
  | "=" => some .same
  | "<>" => some .different
  | _ => none

/-- What a column is compared with: the value bound to a placeholder or a word in quotes. -/
inductive Side
  | bound (number : Nat)
  | quoted (word : String)
  deriving DecidableEq, Repr

/-- The text of a side. -/
def Side.text : Side → String
  | .bound number => "$" ++ toString number
  | .quoted word => "'" ++ word ++ "'"

/-- The side that a word writes. -/
def Side.read? (word : String) : Option Side :=
  match word.toList with
  | '$' :: digits =>
    if digits ≠ [] ∧ digits.all Char.isDigit then some (.bound (Nat.ofDigitChars 10 digits 0))
    else none
  | '\'' :: rest =>
    if rest.getLast? = some '\'' then some (.quoted (String.ofList rest.dropLast)) else none
  | _ => none

/-- The value of a side, where the first bound value has the number one. -/
def Side.value? (params : List Value) : Side → Option Value
  | .bound 0 => none
  | .bound (k + 1) => params[k]?
  | .quoted word => some (.text word)

/-- A comparison as a statement writes it. -/
structure Comparison where
  column : String
  relation : Relation
  side : Side
  deriving DecidableEq, Repr

namespace Comparison

/-- The words of a comparison. -/
def spelled (c : Comparison) : List String := [c.column, c.relation.sign, c.side.text]

/-- The comparison that three words write. -/
def read? (column sign side : String) : Option Comparison := do
  let relation ← Relation.read? sign
  let side ← Side.read? side
  some { column, relation, side }

/-- Whether a comparison holds of a row, with the bound values in the place of the placeholders. A
cell without a value satisfies no comparison. -/
def Holds (params : List Value) (row : Row) (c : Comparison) : Prop :=
  ∃ value other, row.cell c.column = .ok (some value) ∧ c.side.value? params = some other ∧
    match c.relation with
    | .same => value = other
    | .different => value ≠ other

end Comparison

/-- Reads comparisons between which stands the word `AND`. They end with the text or where the order
of the rows begins. -/
def readComparisons : List String → Option (List Comparison)
  | column :: sign :: side :: rest => do
    let first ← Comparison.read? column sign side
    match rest with
    | [] => some [first]
    | "AND" :: more => (first :: ·) <$> readComparisons more
    | "ORDER" :: _ => some [first]
    | _ => none
  | _ => none

/-- The comparisons that follow the word `WHERE`. -/
def clause? (sql : String) : Option (List Comparison) :=
  readComparisons (((words sql).dropWhile (· ≠ "WHERE")).drop 1)

/-- The clause of a statement can be read and each of its comparisons holds of a row. -/
def Statement.Selects (s : Statement) (row : Row) : Prop :=
  ∃ clause, clause? s.sql = some clause ∧ ∀ c ∈ clause, c.Holds s.params row

/-- The sign of a relation is read as the relation. -/
@[simp] theorem Relation.read?_sign (r : Relation) : read? r.sign = some r := by
  cases r <;> rfl

/-- The text of a side is read as the side. -/
@[simp] theorem Side.read?_text (side : Side) : read? side.text = some side := by
  cases side with
  | bound number =>
    have hchars : (Side.bound number).text.toList = '$' :: Nat.toDigits 10 number := by
      simp [text, Nat.toString_eq_repr, Nat.toList_repr]
    have hdigits : Nat.toDigits 10 number ≠ [] ∧ (Nat.toDigits 10 number).all Char.isDigit := by
      refine ⟨Nat.toDigits_ne_nil, List.all_eq_true.mpr fun c hc => ?_⟩
      exact Nat.isDigit_of_mem_toDigits (by decide) (by decide) hc
    simp only [read?, hchars, if_pos hdigits, Nat.ofDigitChars_ten_toDigits]
  | quoted word =>
    have hchars : (Side.quoted word).text.toList = '\'' :: (word.toList ++ ['\'']) := by
      simp [text]
    simp only [read?, hchars, List.getLast?_append, List.getLast?_singleton, Option.some_or,
      if_true, List.dropLast_concat, String.ofList_toList]

/-- The words of a comparison are read as the comparison. -/
@[simp] theorem Comparison.read?_spelled (c : Comparison) :
    read? c.column c.relation.sign c.side.text = some c := by
  simp [read?]

/-! ## The clause of a conjunction -/

variable {conditions : List Condition} {number : Nat}

/-- The word of a condition, if there is one, has letters only. -/
def Condition.Plain : Condition → Prop
  | .equalsWord _ word => word.toList.all Char.isAlpha
  | .equals _ _ | .differs _ _ => True

/-- A condition with a bound value has no word that could fail to be plain. -/
@[simp] theorem Condition.plain_equals (column : RunColumn) (operand : Operand) :
    (equals column operand).Plain :=
  trivial

/-- The same for a condition that excludes a bound value. -/
@[simp] theorem Condition.plain_differs (column : RunColumn) (operand : Operand) :
    (differs column operand).Plain :=
  trivial

/-- The comparison that the text of a condition writes. -/
def Condition.comparison (number : Nat) : Condition → Comparison
  | .equalsWord column word => ⟨column.name, .same, .quoted word⟩
  | .equals column _ => ⟨column.name, .same, .bound number⟩
  | .differs column _ => ⟨column.name, .different, .bound number⟩

/-- The comparisons of a conjunction; `number` is that of the next placeholder. -/
def comparisons : (number : Nat) → List Condition → List Comparison
  | _, [] => []
  | number, c :: rest =>
    c.comparison number :: comparisons (if c.bound?.isSome then number + 1 else number) rest

/-- Letters and digits belong to words. -/
theorem isGap_of_isAlphanum {c : Char} (h : c.isAlphanum = true) : isGap c = false := by
  have hne (d : Char) (hd : d.isAlphanum = false) : c ≠ d := by
    rintro rfl
    rw [hd] at h
    cases h
  simp [isGap, hne ' ' (by decide), hne ',' (by decide), hne '(' (by decide), hne ')' (by decide)]

/-- The name of a column is one word. -/
theorem words_columnName (column : RunColumn) : words column.name = [column.name] := by
  cases column <;> decide +kernel

/-- The sign of a relation is one word. -/
theorem words_sign (r : Relation) : words r.sign = [r.sign] := by
  cases r <;> decide +kernel

/-- A placeholder is one word. -/
theorem words_bound (number : Nat) :
    words (Side.bound number).text = [(Side.bound number).text] := by
  have hchars : (Side.bound number).text.toList = '$' :: Nat.toDigits 10 number := by
    simp [Side.text, Nat.toString_eq_repr, Nat.toList_repr]
  have hne : (Side.bound number).text ≠ "" := by simp [← String.toList_inj, hchars]
  refine words_eq_singleton hne fun c hc => ?_
  rw [hchars, List.mem_cons] at hc
  rcases hc with rfl | hdigit
  · decide
  · have hdigit := Nat.isDigit_of_mem_toDigits (by decide) (by decide) hdigit
    exact isGap_of_isAlphanum (by simp [Char.isAlphanum, hdigit])

/-- A plain word in quotes is one word. -/
theorem words_quoted {word : String} (hplain : word.toList.all Char.isAlpha) :
    words (Side.quoted word).text = [(Side.quoted word).text] := by
  have hchars : (Side.quoted word).text.toList = '\'' :: (word.toList ++ ['\'']) := by
    simp [Side.text]
  have hne : (Side.quoted word).text ≠ "" := by simp [← String.toList_inj, hchars]
  refine words_eq_singleton hne fun c hc => ?_
  rw [hchars, List.mem_cons, List.mem_append, List.mem_singleton] at hc
  rcases hc with rfl | hletter | rfl
  · decide
  · have hletter := List.all_eq_true.mp hplain c hletter
    exact isGap_of_isAlphanum (by simp [Char.isAlphanum, hletter])
  · decide

/-- A condition is written as its comparison. -/
theorem words_text {c : Condition} (hplain : c.Plain) (number : Nat) :
    words (c.text "" number) = (c.comparison number).spelled := by
  have hwords (column : RunColumn) (r : Relation) (side : Side)
      (hside : words side.text = [side.text]) :
      words (column.name ++ " " ++ (r.sign ++ " " ++ side.text)) =
        [column.name, r.sign, side.text] := by
    rw [words_append_blank, words_append_blank, words_columnName, words_sign, hside]
    rfl
  cases c with
  | equalsWord column word =>
    have htext : (Condition.equalsWord column word).text "" number =
        column.name ++ " " ++ (Relation.same.sign ++ " " ++ (Side.quoted word).text) := by
      simp [← String.toList_inj, Condition.text, Relation.sign, Side.text]
    exact htext ▸ hwords column .same (.quoted word) (words_quoted hplain)
  | equals column operand =>
    have htext : (Condition.equals column operand).text "" number =
        column.name ++ " " ++ (Relation.same.sign ++ " " ++ (Side.bound number).text) := by
      simp [← String.toList_inj, Condition.text, Relation.sign, Side.text]
    exact htext ▸ hwords column .same (.bound number) (words_bound number)
  | differs column operand =>
    have htext : (Condition.differs column operand).text "" number =
        column.name ++ " " ++ (Relation.different.sign ++ " " ++ (Side.bound number).text) := by
      simp [← String.toList_inj, Condition.text, Relation.sign, Side.text]
    exact htext ▸ hwords column .different (.bound number) (words_bound number)

/-- Between the words of texts that are joined by `AND` stands that word. -/
theorem words_intercalate (texts : List String) :
    words (" AND ".intercalate texts) = ["AND"].intercalate (texts.map words) := by
  match texts with
  | [] => rfl
  | [text] => simp
  | text :: next :: rest =>
    have hblanks : " AND ".intercalate (text :: next :: rest) =
        text ++ " " ++ ("AND" ++ " " ++ " AND ".intercalate (next :: rest)) := by
      simp [← String.toList_inj, String.intercalate_cons_cons]
    have hand : words "AND" = ["AND"] := by decide +kernel
    rw [hblanks, words_append_blank, words_append_blank, hand, words_intercalate (next :: rest)]
    simp [List.intercalate_cons_cons]

/-- The texts of plain conditions have the words of the comparisons that they write. -/
theorem map_words_conditionTexts (hplain : ∀ c ∈ conditions, c.Plain) (number : Nat) :
    (conditionTexts "" number conditions).map words =
      (comparisons number conditions).map Comparison.spelled := by
  induction conditions generalizing number with
  | nil => rfl
  | cons c rest ih =>
    have hfirst := words_text (hplain c List.mem_cons_self) number
    have hrest := ih (fun d hd => hplain d (List.mem_cons_of_mem c hd))
    simp only [conditionTexts, comparisons, List.map_cons, hfirst, hrest]

/-- The words of a conjunction are those of its comparisons. -/
theorem words_conjunction (hplain : ∀ c ∈ conditions, c.Plain) :
    words (conjunction "" conditions) =
      ["AND"].intercalate ((comparisons 1 conditions).map Comparison.spelled) := by
  rw [conjunction, words_intercalate, map_words_conditionTexts hplain]

/-- Comparisons are read back from their words, if the text or its clause ends after them. -/
theorem readComparisons_spelled {clause : List Comparison} {after : List String}
    (hne : clause ≠ []) (hafter : after = [] ∨ after.head? = some "ORDER") :
    readComparisons (["AND"].intercalate (clause.map Comparison.spelled) ++ after) =
      some clause := by
  match clause with
  | [c] =>
    rcases hafter with rfl | horder
    · simp [Comparison.spelled, readComparisons]
    · obtain ⟨rest, rfl⟩ := List.head?_eq_some_iff.mp horder
      simp [Comparison.spelled, readComparisons]
  | c :: next :: rest =>
    have hrest := readComparisons_spelled (List.cons_ne_nil next rest) hafter
    have hwords : ["AND"].intercalate ((c :: next :: rest).map Comparison.spelled) ++ after =
        c.column :: c.relation.sign :: c.side.text :: "AND" ::
          (["AND"].intercalate ((next :: rest).map Comparison.spelled) ++ after) := by
      simp [Comparison.spelled, List.intercalate_cons_cons]
    rw [hwords, readComparisons, Comparison.read?_spelled]
    simp only [Option.bind_eq_bind, Option.bind_some, hrest, Option.map_eq_map, Option.map_some]

/-! ## Placeholders -/

/-- A condition binds its operand, if it has one, in front of what the others bind. -/
theorem boundValues_cons (c : Condition) (rest : List Condition) :
    boundValues (c :: rest) = (c.bound?.map Operand.value).toList ++ boundValues rest := by
  unfold boundValues
  rw [List.filterMap_cons]
  cases c.bound? <;> rfl

/-- A comparison has a placeholder exactly if its condition binds a value. -/
theorem filter_spelled {c : Condition} (hplain : c.Plain) (number : Nat) :
    (c.comparison number).spelled.filter holdsPlace =
      (c.bound?.map fun _ => (Side.bound number).text).toList := by
  have hcolumn (column : RunColumn) : holdsPlace column.name = false := by
    cases column <;> decide +kernel
  have hsign (r : Relation) : holdsPlace r.sign = false := by cases r <;> decide +kernel
  have hbound : holdsPlace (Side.bound number).text = true := by simp [holdsPlace, Side.text]
  cases c with
  | equalsWord column word =>
    have hletters : '$' ∉ word.toList := fun hmem =>
      absurd (List.all_eq_true.mp hplain '$' hmem) (by decide)
    have hquoted : holdsPlace (Side.quoted word).text = false := by
      simp [holdsPlace, Side.text, hletters]
    simp [Condition.comparison, Comparison.spelled, hcolumn, hsign, hquoted, Condition.bound?]
  | equals column operand =>
    simp [Condition.comparison, Comparison.spelled, hcolumn, hsign, hbound, Condition.bound?]
  | differs column operand =>
    simp [Condition.comparison, Comparison.spelled, hcolumn, hsign, hbound, Condition.bound?]

/-- The words between comparisons hold no placeholder. -/
theorem filter_intercalate (parts : List (List String)) :
    (["AND"].intercalate parts).filter holdsPlace = (parts.map (·.filter holdsPlace)).flatten := by
  match parts with
  | [] => rfl
  | [part] => simp
  | part :: next :: rest =>
    have hand : holdsPlace "AND" = false := by decide +kernel
    rw [List.intercalate_cons_cons, List.filter_append, List.filter_append,
      filter_intercalate (next :: rest)]
    simp [hand]

/-- The placeholders of a conjunction are numbered without a gap, one for each bound value. -/
theorem flatten_filter_spelled (hplain : ∀ c ∈ conditions, c.Plain) (number : Nat) :
    (((comparisons number conditions).map Comparison.spelled).map (·.filter holdsPlace)).flatten =
      (List.range' number (boundValues conditions).length).map fun k => (Side.bound k).text := by
  induction conditions generalizing number with
  | nil => rfl
  | cons c rest ih =>
    have hfirst := filter_spelled (hplain c List.mem_cons_self) number
    have hrest := ih fun d hd => hplain d (List.mem_cons_of_mem c hd)
    simp only [comparisons, List.map_cons, List.flatten_cons, hfirst, hrest, boundValues_cons]
    cases c.bound? with
    | none => simp
    | some operand => simp [List.range'_succ]

/-! ## A conjunction in its statement -/

/-- The texts around the clause of a statement and the character after the clause. -/
structure Frame where
  head : String
  gap : Char
  tail : String
  isGap_gap : isGap gap = true
  opens : (words head).dropWhile (· ≠ "WHERE") = ["WHERE"]
  closes : words tail = [] ∨ (words tail).head? = some "ORDER"
  head_places : placeholders head = []
  tail_places : placeholders tail = []

namespace Frame

variable (frame : Frame)

/-- A statement with a clause. -/
def around (clause : String) : String :=
  frame.head ++ " " ++ clause ++ String.singleton frame.gap ++ frame.tail

/-- A statement has the words before its clause, those of the comparisons with `AND` between them,
and those after it. -/
theorem words_around (hplain : ∀ c ∈ conditions, c.Plain) :
    words (frame.around (conjunction "" conditions)) =
      words frame.head ++ (["AND"].intercalate ((comparisons 1 conditions).map Comparison.spelled) ++
        words frame.tail) := by
  rw [around, words_append_gap frame.isGap_gap, words_append_blank, words_conjunction hplain,
    List.append_assoc]

/-- The comparisons of the statement are those of the conjunction. -/
theorem clause_around (hne : conditions ≠ []) (hplain : ∀ c ∈ conditions, c.Plain) :
    clause? (frame.around (conjunction "" conditions)) = some (comparisons 1 conditions) := by
  have hcomparisons : comparisons 1 conditions ≠ [] := by
    cases conditions with
    | nil => exact absurd rfl hne
    | cons c rest => exact List.cons_ne_nil _ _
  rw [clause?, frame.words_around hplain, List.dropWhile_append, frame.opens]
  exact readComparisons_spelled hcomparisons frame.closes

/-- The placeholders of the statement are those of the conjunction. -/
theorem placeholders_around (hplain : ∀ c ∈ conditions, c.Plain) :
    placeholders (frame.around (conjunction "" conditions)) =
      (List.range' 1 (boundValues conditions).length).map fun k => (Side.bound k).text := by
  have hhead : (words frame.head).filter holdsPlace = [] := frame.head_places
  have htail : (words frame.tail).filter holdsPlace = [] := frame.tail_places
  rw [placeholders, frame.words_around hplain, List.filter_append, List.filter_append, hhead, htail,
    filter_intercalate, flatten_filter_spelled hplain, List.nil_append, List.append_nil]

end Frame

/-! ## Rows and records -/

variable {row : Row} {r : Run.Record} {params : List Value}

/-- A row has in the columns of the conditions what a record has. -/
def Row.Shows (row : Row) (r : Run.Record) : Prop :=
  ∀ column : RunColumn, row.cell column.name = .ok (some (column.operand r).value)

/-- Operands are told apart by their values. -/
theorem Operand.value_inj {a b : Operand} : a.value = b.value ↔ a = b := by
  cases a <;> cases b <;> simp [value]

/-- On a row that shows a record, the comparison of a condition holds when the condition does. -/
theorem Condition.comparison_holds_iff (hshows : row.Shows r) (c : Condition) {k : Nat}
    (hbound : ∀ operand, c.bound? = some operand → params[k]? = some operand.value) :
    (c.comparison (k + 1)).Holds params row ↔ c.holds r = true := by
  cases c with
  | equalsWord column word =>
    have hword : (Value.text word) = (Operand.text word).value := rfl
    simp [comparison, Comparison.Holds, Side.value?, hshows column, holds, hword, Operand.value_inj]
  | equals column operand =>
    simp [comparison, Comparison.Holds, Side.value?, hshows column, holds, hbound operand rfl,
      Operand.value_inj]
  | differs column operand =>
    simp [comparison, Comparison.Holds, Side.value?, hshows column, holds, hbound operand rfl,
      Operand.value_inj]

/-- The comparisons of a conjunction, whose placeholders follow those of earlier values, hold of a
row that shows a record when all conditions hold of the record. -/
theorem comparisons_hold_iff (hshows : row.Shows r) (earlier : List Value) :
    (∀ c ∈ comparisons (earlier.length + 1) conditions,
        c.Holds (earlier ++ boundValues conditions) row) ↔ allHold conditions r = true := by
  induction conditions generalizing earlier with
  | nil => simp [comparisons, allHold]
  | cons c rest ih =>
    have hfirst : (c.comparison (earlier.length + 1)).Holds
        (earlier ++ boundValues (c :: rest)) row ↔ c.holds r = true := by
      refine c.comparison_holds_iff hshows fun operand hoperand => ?_
      simp [boundValues_cons, hoperand]
    have hrest := ih (earlier ++ (c.bound?.map Operand.value).toList)
    have hnumber : (earlier ++ (c.bound?.map Operand.value).toList).length + 1 =
        if c.bound?.isSome then earlier.length + 1 + 1 else earlier.length + 1 := by
      cases c.bound? <;> simp
    rw [hnumber, List.append_assoc, ← boundValues_cons] at hrest
    simp only [comparisons, List.forall_mem_cons, hfirst, hrest, allHold, List.all_cons,
      Bool.and_eq_true]

end BenchQueue.Database
