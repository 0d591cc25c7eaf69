import Mathlib.Data.List.Chain
import SampleModels.Proofs.Decoding.Rows
import SampleModels.Proofs.Layout.Printable

/-!
# Reading statements back

A key stands in its lines as it is and could imitate what comes after it, so lines are read from
their ends. What a line ends with tells its kind, every quotation mark in a literal follows a
backslash, and no space is in the name of a class. A statement that builds a nested model is told
from all others by its first line, which also tells its key.
-/

namespace SampleModels

namespace Text

private theorem isChain_literalChar (c : Char) :
    (literalChar c).IsChain fun d e => e = '"' → d = '\\' := by
  rcases literalChar_cases c with ⟨e, -, hl⟩ | ⟨hc, hl⟩ | ⟨-, -, hl⟩ <;> rw [hl]
  · exact List.isChain_pair.mpr fun _ => rfl
  · have hn : '"' ∉ codeEscape c := fun h => (mem_codeEscape hc h).elim (by decide) (by decide)
    apply List.Pairwise.isChain
    apply List.pairwise_of_forall_mem_list
    rintro d - _ he rfl
    exact absurd he hn
  · exact List.isChain_singleton c

private theorem quote_notMem_head?_flatMap (cs : List Char) :
    '"' ∉ (cs.flatMap literalChar).head? := by
  cases cs with
  | nil => simp
  | cons c cs =>
    rcases literalChar_cases c with ⟨e, -, hl⟩ | ⟨-, hl⟩ | ⟨-, hq, hl⟩
    · simp [hl]
    · simp [hl, codeEscape]
    · simpa [hl] using hq

/-- In a literal every quotation mark follows a backslash. -/
theorem isChain_literalBody (text : String) :
    (literalBody text).toList.IsChain fun d e => e = '"' → d = '\\' := by
  rw [literalBody, String.toList_ofList]
  induction text.toList with
  | nil => exact .nil
  | cons c cs ih =>
    rw [List.flatMap_cons, List.isChain_append]
    refine ⟨isChain_literalChar c, ih, ?_⟩
    rintro d - _ he rfl
    exact absurd he (quote_notMem_head?_flatMap cs)

theorem not_infix_literalBody (text : String) : ¬ ['[', '"'] <:+: (literalBody text).toList := by
  intro h
  have hchain : ['[', '"'].IsChain fun d e => e = '"' → d = '\\' :=
    List.IsChain.infix (isChain_literalBody text) h
  exact absurd (List.isChain_pair.mp hchain rfl) (by decide)

end Text

/-- Where a lookup begins is seen from its end. -/
theorem append_lookupText_inj {s t key k : String} (h : s ++ lookupText key = t ++ lookupText k) :
    s = t := by
  have hl := congrArg String.toList h
  simp only [lookupText, String.toList_append, ← List.append_assoc,
    List.append_cancel_right_eq] at hl
  have hcut := append_cons_cons_inj_of_not_infix (by decide) (Text.not_infix_literalBody key)
    (Text.not_infix_literalBody k)
    (show (s.toList ++ "json".toList) ++ '[' :: '"' :: (Text.literalBody key).toList =
      (t.toList ++ "json".toList) ++ '[' :: '"' :: (Text.literalBody k).toList by simpa using hl)
  exact String.toList_inj.mp (List.append_cancel_right hcut)

theorem notMem_of_isIdentifier {name : String} (h : isIdentifier name) {c : Char}
    (hc : isIdentifierRest c = false) : c ∉ name.toList := by
  intro hm
  have hrest := isIdentifierRest_of_mem h hm
  rw [hc] at hrest
  cases hrest

namespace Statement

def nestedText (key typeName : String) : String :=
  key ++ " = " ++ typeName ++ "(json:" ++ lookupText key ++ ")"

theorem nestedText_inj {key k name n : String} (hn : isIdentifier name) (hn' : isIdentifier n)
    (h : nestedText key name = nestedText k n) : key = k ∧ name = n := by
  unfold nestedText at h
  have hlookup := append_lookupText_inj ((String.append_left_inj ")").mp h)
  have htext := congrArg String.toList ((String.append_left_inj "(json:").mp hlookup)
  have hspace : isIdentifierRest ' ' = false := by decide
  obtain ⟨hkey, hname⟩ := append_cons_inj_of_notMem_right (a := ' ')
    (notMem_of_isIdentifier hn hspace) (notMem_of_isIdentifier hn' hspace)
    (show (key.toList ++ " =".toList) ++ ' ' :: name.toList =
      (k.toList ++ " =".toList) ++ ' ' :: n.toList by simpa using htext)
  exact ⟨String.toList_inj.mp (List.append_cancel_right hkey), String.toList_inj.mp hname⟩

/-- A first line that ends with a parenthesis builds a nested model. -/
private theorem first_line_cases (s : Statement) :
    (∃ key name, s = .nested key name) ∨
      ∃ l rest, s.lines = l :: rest ∧ l.text ≠ "" ∧ l.text.toList.getLast? ≠ some ')' := by
  cases s with
  | nested key name => exact .inl ⟨key, name, rfl⟩
  | scalar key kind =>
    exact .inr ⟨_, _, rfl, by simp, by simp [List.getLast?_cons, List.getLast?_append]⟩
  | passThrough key =>
    exact .inr ⟨_, _, rfl, by simp, by simp [lookupText, List.getLast?_cons, List.getLast?_append]⟩
  | list key element => exact .inr ⟨_, _, rfl, by simp, by simp⟩
  | arrayRoot => exact .inr ⟨_, _, rfl, by simp, by simp⟩
  | scalarRoot => exact .inr ⟨_, _, rfl, by simp, by simp⟩

private theorem row_ne_nestedRow {width : Nat} {l : Line} {key name : String} (hne : l.text ≠ "")
    (hlast : l.text.toList.getLast? ≠ some ')') :
    l.row width ≠ Line.row width ⟨2, nestedText key name⟩ := by
  intro h
  have hnested : nestedText key name ≠ "" := by simp [nestedText]
  have hclose : (nestedText key name).toList.getLast? = some ')' := by
    simp [nestedText, List.getLast?_cons, List.getLast?_append]
  apply hlast
  rw [← hclose, ← Line.getLast?_row hne, h, Line.getLast?_row hnested]

/-- The rows of statements, and those that end the initializer and the class. -/
def bodyRows (width : Nat) (statements : List Statement) : List (List Char) :=
  (statements.flatMap lines ++ [(⟨1, "\x7d"⟩ : Line), ⟨0, "\x7d"⟩]).map (Line.row width)

theorem bodyRows_cons (width : Nat) (s : Statement) (statements : List Statement) :
    bodyRows width (s :: statements) =
      s.lines.map (Line.row width) ++ bodyRows width statements := by
  simp [bodyRows]

/-- Rows that begin as building a nested model does are those of statements that build it first. -/
theorem mem_of_bodyRows {width : Nat} {statements : List Statement} {key name : String}
    {more : List (List Char)} (hn : isIdentifier name)
    (hs : ∀ s ∈ statements, ∀ n, s.className? = some n → isIdentifier n)
    (h : bodyRows width statements = Line.row width ⟨2, nestedText key name⟩ :: more) :
    .nested key name ∈ statements := by
  cases statements with
  | nil => exact absurd (List.cons.inj h).1 (row_ne_nestedRow (by decide) (by decide))
  | cons s statements =>
    rw [bodyRows_cons] at h
    rcases first_line_cases s with ⟨k, n, rfl⟩ | ⟨l, rest, hl, hne, hlast⟩
    · have htext := Line.row_injective (List.cons.inj h).1
      obtain ⟨rfl, rfl⟩ := nestedText_inj (hs _ List.mem_cons_self n rfl) hn htext
      exact List.mem_cons_self
    · rw [hl] at h
      exact absurd (List.cons.inj h).1 (row_ne_nestedRow hne hlast)

/-- The rows that fill a list tell how its elements are taken over. -/
theorem conversion_of_rows {width : Nat} {key : String} {element element' : ElementType}
    {rows rows' : List (List Char)}
    (h : (lines (.list key element)).map (Line.row width) ++ rows =
      (lines (.list key element')).map (Line.row width) ++ rows') :
    element.conversion = element'.conversion := by
  simp only [lines, List.map_cons, List.cons_append, List.cons.injEq] at h
  obtain ⟨-, -, -, hrow, -⟩ := h
  have htext := Line.row_injective hrow
  exact (String.append_right_inj _).mp ((String.append_left_inj ")").mp htext)

end Statement

end SampleModels
