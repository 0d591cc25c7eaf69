import SampleModels.Proofs.Decoding.Headers
import SampleModels.Proofs.Layout.Balance
import SampleModels.Text.Digit

/-!
# Reading string literals back

A literal is read from the left, one character at a time: a letter behind a backslash or a code in
braces stands for one character, everything but a quotation mark for itself, and the first quotation
mark outside of an escape ends the literal. Read so, the literal in a lookup ends where it should
and gives the key.
-/

namespace SampleModels

namespace Text

/-- Where the reader of a literal is. -/
inductive LiteralState where
  /-- Outside of an escape. -/
  | plain
  /-- Behind a backslash. -/
  | escape
  /-- Behind the `u` of a code. -/
  | codeStart
  /-- Inside of the braces, with the value of the digits so far, if there are any. -/
  | code (value? : Option Nat)
deriving DecidableEq

/-- The character that a letter behind a backslash stands for. -/
def shortEscape? (c : Char) : Option Char :=
  if c = '\\' then some '\\'
  else if c = '"' then some '"'
  else if c = 'n' then some '\n'
  else if c = 'r' then some '\r'
  else if c = 't' then some '\t'
  else none

def ofCode? (n : Nat) : Option Char := if n.isValidChar then some (Char.ofNat n) else none

/-- The state behind a character inside of a literal, and the part of the text that ends with it.
A character that cannot stand there, such as a quotation mark outside of an escape, has none. -/
def LiteralState.next? (c : Char) : LiteralState → Option (LiteralState × List Char)
  | .plain =>
    if c = '"' then none else if c = '\\' then some (.escape, []) else some (.plain, [c])
  | .escape =>
    if c = 'u' then some (.codeStart, []) else (shortEscape? c).map fun d => (.plain, [d])
  | .codeStart => if c = '\x7b' then some (.code none, []) else none
  | .code value? =>
    if c = '\x7d' then (value?.bind ofCode?).map fun d => (.plain, [d])
    else (hexDigit? c).map fun d => (.code (some (value?.getD 0 * 16 + d)), [])

/-- Reads what stands inside of a literal: the state at its end, and the text. -/
def readBody? (state : LiteralState) : List Char → Option (LiteralState × List Char)
  | [] => some (state, [])
  | c :: rest => (state.next? c).bind fun here =>
    (readBody? here.1 rest).map fun later => (later.1, here.2 ++ later.2)

/-- Reads a literal up to the quotation mark that ends it: the text, and what is behind the mark. -/
def readLiteral? (state : LiteralState) : List Char → Option (List Char × List Char)
  | [] => none
  | c :: rest =>
    if state = .plain ∧ c = '"' then some ([], rest)
    else (state.next? c).bind fun here =>
      (readLiteral? here.1 rest).map fun later => (here.2 ++ later.1, later.2)

theorem readBody?_append (state : LiteralState) (cs ds : List Char) :
    readBody? state (cs ++ ds) = (readBody? state cs).bind fun first =>
      (readBody? first.1 ds).map fun second => (second.1, first.2 ++ second.2) := by
  induction cs generalizing state with
  | nil => simp [readBody?]
  | cons c cs ih =>
    simp only [List.cons_append, readBody?, ih]
    cases state.next? c with
    | none => rfl
    | some here =>
      simp only [Option.bind_some]
      cases readBody? here.1 cs with
      | none => rfl
      | some first =>
        cases hd : readBody? first.1 ds <;> simp [hd]

/-- Only behind a backslash there can be a quotation mark inside of a literal. -/
theorem LiteralState.eq_escape_of_next?_quote {state : LiteralState}
    {here : LiteralState × List Char} (h : state.next? '"' = some here) : state = .escape := by
  cases state with
  | escape => rfl
  | plain => cases h
  | codeStart => cases h
  | code value? => cases h

theorem readBody?_before_quote {state : LiteralState} {before after : List Char}
    {read : LiteralState × List Char} (h : readBody? state (before ++ '"' :: after) = some read) :
    ∃ text, readBody? state before = some (.escape, text) := by
  rw [readBody?_append] at h
  obtain ⟨⟨inner, text⟩, hbefore, hafter⟩ := Option.bind_eq_some_iff.mp h
  obtain ⟨later, hlater, -⟩ := Option.map_eq_some_iff.mp hafter
  obtain ⟨here, hhere, -⟩ := Option.bind_eq_some_iff.mp hlater
  cases LiteralState.eq_escape_of_next?_quote hhere
  exact ⟨text, hbefore⟩

/-- A body that is read to its end is ended by the next quotation mark. -/
theorem readLiteral?_of_readBody? {state : LiteralState} {body text : List Char}
    (h : readBody? state body = some (.plain, text)) (behind : List Char) :
    readLiteral? state (body ++ '"' :: behind) = some (text, behind) := by
  induction body generalizing state text with
  | nil =>
    cases h
    rfl
  | cons c body ih =>
    obtain ⟨here, hhere, hrest⟩ := Option.bind_eq_some_iff.mp h
    obtain ⟨⟨last, more⟩, hmore, heq⟩ := Option.map_eq_some_iff.mp hrest
    cases heq
    have hquote : ¬ (state = .plain ∧ c = '"') := by
      rintro ⟨rfl, rfl⟩
      cases hhere
    simp [readLiteral?, hquote, hhere, ih hmore]

private theorem hexDigit?_digitChar :
    ∀ d < 16, hexDigit? (Nat.digitChar d) = some d ∧ Nat.digitChar d ≠ '\x7d' := by decide

theorem readBody?_toDigits (n : Nat) :
    readBody? (.code none) (Nat.toDigits 16 n) = some (.code (some n), []) := by
  induction n using Nat.strongRecOn with
  | ind n ih =>
    have hdigit (value? : Option Nat) (d : Nat) (hd : d < 16) :
        readBody? (.code value?) [Nat.digitChar d] =
          some (.code (some (value?.getD 0 * 16 + d)), []) := by
      obtain ⟨hhex, hbrace⟩ := hexDigit?_digitChar d hd
      simp [readBody?, LiteralState.next?, hhex, hbrace]
    rw [Nat.toDigits_eq_if (by decide)]
    split
    · next hn => simp [hdigit none n hn]
    · next hn =>
      have hless : n / 16 < n := by omega
      have hsum : n / 16 * 16 + n % 16 = n := Nat.div_add_mod' n 16
      simp [readBody?_append, ih _ hless, hdigit (some (n / 16)) (n % 16) (by omega), hsum]

theorem readBody?_codeEscape (c : Char) : readBody? .plain (codeEscape c) = some (.plain, [c]) := by
  have hvalid : c.toNat.isValidChar := c.valid
  have hcode : ofCode? c.toNat = some c := by rw [ofCode?, if_pos hvalid, Char.ofNat_toNat]
  have hend : readBody? (.code (some c.toNat)) ['\x7d'] = some (.plain, [c]) := by
    simp [readBody?, LiteralState.next?, hcode]
  have hbraces : readBody? (.code none) (Nat.toDigits 16 c.toNat ++ ['\x7d']) =
      some (.plain, [c]) := by
    simp [readBody?_append, readBody?_toDigits, hend]
  simp [codeEscape, readBody?, LiteralState.next?, hbraces]

theorem readBody?_literalChar (c : Char) :
    readBody? .plain (literalChar c) = some (.plain, [c]) := by
  unfold literalChar
  split_ifs with hbackslash hquote hn hr ht hcontrol
  · rw [hbackslash]
    rfl
  · rw [hquote]
    rfl
  · rw [hn]
    rfl
  · rw [hr]
    rfl
  · rw [ht]
    rfl
  · exact readBody?_codeEscape c
  · simp [readBody?, LiteralState.next?, hbackslash, hquote]

theorem readBody?_literalBody (text : String) :
    readBody? .plain (literalBody text).toList = some (.plain, text.toList) := by
  rw [literalBody, String.toList_ofList]
  induction text.toList with
  | nil => rfl
  | cons c cs ih => simp [readBody?_append, readBody?_literalChar, ih]

/-- The literal of a text is read to its end, whatever is behind it. -/
theorem readLiteral?_literalBody (text : String) (behind : List Char) :
    readLiteral? .plain ((literalBody text).toList ++ '"' :: behind) =
      some (text.toList, behind) :=
  readLiteral?_of_readBody? (readBody?_literalBody text) behind

end Text

/-- No lookup is the beginning of another one. -/
theorem lookupText_append_inj {key other s t : String}
    (h : lookupText key ++ s = lookupText other ++ t) : key = other ∧ s = t := by
  have hchars := congrArg String.toList h
  simp only [lookupText, String.append_assoc, String.toList_append,
    List.append_cancel_left_eq] at hchars
  have hkey := Text.readLiteral?_literalBody key (']' :: s.toList)
  have hother := Text.readLiteral?_literalBody other (']' :: t.toList)
  replace hchars : (Text.literalBody key).toList ++ '"' :: ']' :: s.toList =
    (Text.literalBody other).toList ++ '"' :: ']' :: t.toList := hchars
  rw [hchars, hother, Option.some_inj, Prod.mk.injEq, List.cons.injEq] at hkey
  exact ⟨(String.toList_inj.mp hkey.1).symm, (String.toList_inj.mp hkey.2.2).symm⟩

namespace Statement

/-- What stands before and behind the lookup, in the line of the statement that holds one. -/
def aroundLookup? : Statement → Option (String × String)
  | .scalar _ kind => some ("if let value = ", "." ++ kind.accessor ++ " \x7b")
  | .passThrough key => some (key ++ " = ", "")
  | .nested key typeName => some (key ++ " = " ++ typeName ++ "(json:", ")")
  | .list _ _ => some ("if let xs = ", ".array \x7b")
  | .arrayRoot => none
  | .scalarRoot => none

theorem lookup_mem_lines {s : Statement} {key : String} (h : s.key? = some key) :
    ∃ before behind, s.aroundLookup? = some (before, behind) ∧
      ⟨2, before ++ lookupText key ++ behind⟩ ∈ s.lines := by
  cases s <;> cases h <;> refine ⟨_, _, rfl, ?_⟩ <;> simp [lines, String.append_assoc]

end Statement

theorem Line.row_lookup (width level : Nat) (before key behind : String) :
    Line.row width ⟨level, before ++ lookupText key ++ behind⟩ =
      Line.row width ⟨level, before ++ "json[\""⟩ ++
        ((Text.literalBody key).toList ++ '"' :: ("]" ++ behind).toList) := by
  rw [row_of_ne (by simp [lookupText]), row_of_ne (by simp)]
  simp [lookupText]

/-- Any text can stand in a literal. No control character is left in it, and read from the left it
has no quotation mark but behind a backslash, does not end inside of an escape and gives the text
back. So no lookup is the beginning of another one, and where the source of a tree looks a key up,
the literal ends where the statement goes on, and gives the key. -/
theorem literal_in_lookup_gives_key (key : String) :
    Text.Printable (Text.literalBody key) ∧
    Text.readBody? .plain (Text.literalBody key).toList = some (.plain, key.toList) ∧
    (∀ before after, (Text.literalBody key).toList = before ++ '"' :: after →
      ∃ text, Text.readBody? .plain before = some (.escape, text)) ∧
    (∀ other s t, lookupText key ++ s = lookupText other ++ t → key = other ∧ s = t) ∧
    ∀ (m : Model) (settings : Settings) (source : String), m.render settings = .ok source →
      ∀ n ∈ m.preorder, ∀ s ∈ n.initializer, s.key? = some key →
        ∃ before behind literal, s.aroundLookup? = some (before, behind) ∧
          Line.row settings.indentWidth ⟨2, before ++ "json[\""⟩ ++ literal ∈ Text.lines source ∧
          Text.readLiteral? .plain literal = some (key.toList, ("]" ++ behind).toList) := by
  have hbody := Text.readBody?_literalBody key
  refine ⟨Text.printable_literalBody key, hbody, ?_, fun other s t => lookupText_append_inj, ?_⟩
  · intro before after hquote
    rw [hquote] at hbody
    exact Text.readBody?_before_quote hbody
  · intro m settings source hsource n hn s hs hkey
    obtain ⟨before, behind, haround, hline⟩ := Statement.lookup_mem_lines hkey
    have hclass : ⟨2, before ++ lookupText key ++ behind⟩ ∈ n.classLines := by
      simp only [Model.classLines, Model.initializerLines, List.mem_append, List.mem_cons,
        List.mem_flatMap]
      exact .inl (.inr (.inl (.inr ⟨s, hs, hline⟩)))
    have hrow := Model.row_mem_lines_of_classLines hsource hn hclass
    rw [Line.row_lookup] at hrow
    exact ⟨before, behind, _, haround, hrow, Text.readLiteral?_literalBody key _⟩

/-- A class with a key that looks like the end of a lookup and an escape behind it. -/
def quotingSample : Model := ⟨"Root", .root, [], [.passThrough "\"]\\u\x7b0\x7d"], []⟩

theorem literal_of_quotingSample :
    ∃ source literal, quotingSample.render ⟨false, 0⟩ = .ok source ∧
      "\"]\\u\x7b0\x7d = json[\"".toList ++ literal ∈ Text.lines source ∧
      Text.readLiteral? .plain literal = some ("\"]\\u\x7b0\x7d".toList, [']']) := by
  obtain ⟨-, -, -, -, hsource⟩ := literal_in_lookup_gives_key "\"]\\u\x7b0\x7d"
  have hunbroken : ∀ l ∈ quotingSample.layout, l.Unbroken := by decide +kernel
  obtain ⟨source, h⟩ : ∃ source, quotingSample.render ⟨false, 0⟩ = .ok source :=
    (Model.exists_render_iff_fits hunbroken).mpr fun l _ => .inr (Nat.zero_le _)
  obtain ⟨before, behind, literal, haround, hrow, hread⟩ :=
    hsource _ _ source h quotingSample (by simp [Model.preorder_eq]) _ List.mem_cons_self rfl
  cases haround
  exact ⟨source, literal, h, hrow, hread⟩

end SampleModels
