import SampleModels.Pointer

/-!
# Pointers and their texts

The text of a pointer reads back as the pointer, whatever its reference tokens hold: an escaped
token has no slash in it, and undoing the escapes for slashes before those for tildes restores it.
So the texts also tell which of two pointers leads into the other.
-/

namespace SampleModels

namespace Pointer

def escapeToken (token : String) : List Char := token.toList.flatMap escapeChar

/-- One character of a token whose slashes are restored and whose tildes are not. -/
def escapeTilde (c : Char) : List Char := if c = '~' then ['~', '0'] else [c]

private theorem replaceEscape_cons {digit value c : Char} (h : c ≠ '~') (rest : List Char) :
    replaceEscape digit value (c :: rest) = c :: replaceEscape digit value rest := by
  cases rest with
  | nil => rfl
  | cons d rest => simp [replaceEscape, h]

private theorem replaceEscape_slashes (cs : List Char) :
    replaceEscape '1' '/' (cs.flatMap escapeChar) = cs.flatMap escapeTilde := by
  induction cs with
  | nil => rfl
  | cons c cs ih =>
    by_cases ht : c = '~'
    · subst ht
      have h0 : ('0' : Char) ≠ '~' := by decide
      simp [escapeChar, escapeTilde, replaceEscape, replaceEscape_cons h0, ih]
    · by_cases hs : c = '/'
      · subst hs
        simp [escapeChar, escapeTilde, replaceEscape, ih]
      · simp [escapeChar, escapeTilde, ht, hs, replaceEscape_cons ht, ih]

private theorem replaceEscape_tildes (cs : List Char) :
    replaceEscape '0' '~' (cs.flatMap escapeTilde) = cs := by
  induction cs with
  | nil => rfl
  | cons c cs ih =>
    by_cases ht : c = '~'
    · subst ht
      simp [escapeTilde, replaceEscape, ih]
    · simp [escapeTilde, ht, replaceEscape_cons ht, ih]

@[simp] theorem unescape_escapeToken (token : String) : unescape (escapeToken token) = token := by
  rw [unescape, escapeToken, replaceEscape_slashes, replaceEscape_tildes, String.ofList_toList]

private theorem slash_notMem_escapeToken (token : String) : '/' ∉ escapeToken token := by
  intro h
  obtain ⟨d, -, hd⟩ := List.mem_flatMap.mp h
  unfold escapeChar at hd
  split at hd
  · simp at hd
  · split at hd
    · simp at hd
    · next hs => exact hs (List.mem_singleton.mp hd).symm

private theorem splitOn_append_chars {piece : List Char} (h : '/' ∉ piece) (tokens : List String) :
    (piece ++ Pointer.chars ⟨tokens⟩).splitOn '/' = piece :: tokens.map escapeToken := by
  induction tokens generalizing piece with
  | nil =>
    rw [Pointer.chars, List.flatMap_nil, List.append_nil]
    exact List.splitOn_eq_singleton h
  | cons token rest ih =>
    have hc : Pointer.chars ⟨token :: rest⟩ = '/' :: (escapeToken token ++ Pointer.chars ⟨rest⟩) :=
      rfl
    rw [hc, List.splitOn_append_cons_self_of_not_mem h, ih (slash_notMem_escapeToken token)]
    rfl

private theorem splitOn_chars (p : Pointer) :
    p.chars.splitOn '/' = [] :: p.tokens.map escapeToken :=
  splitOn_append_chars List.not_mem_nil p.tokens

theorem ofText?_text (p : Pointer) : ofText? p.text = some p := by
  obtain ⟨tokens⟩ := p
  simp [ofText?, text, splitOn_chars, Function.comp_def]

theorem text_injective {p q : Pointer} (h : p.text = q.text) : p = q := by
  have hp := ofText?_text p
  rw [h, ofText?_text] at hp
  exact (Option.some.inj hp).symm

theorem text_eq_iff (p q : Pointer) : p.text = q.text ↔ p = q := ⟨text_injective, congrArg text⟩

theorem escapeToken_injective : Function.Injective escapeToken := by
  intro s t h
  rw [← unescape_escapeToken s, h, unescape_escapeToken]

theorem chars_append (tokens more : List String) :
    Pointer.chars ⟨tokens ++ more⟩ = Pointer.chars ⟨tokens⟩ ++ Pointer.chars ⟨more⟩ :=
  List.flatMap_append

/-- Each step into the document adds a slash and a token to the text. -/
theorem text_push (p : Pointer) (segment : Segment) :
    (p.push segment).text = p.text ++ "/" ++ String.ofList (escapeToken segment.token) := by
  rw [← String.toList_inj, text, push, chars_append]
  simp [text, Pointer.chars, escapeToken]

/-- There is nothing to escape in a numeral. -/
theorem escapeToken_toString (n : Nat) : escapeToken (toString n) = (toString n).toList := by
  have hdigits : ∀ c ∈ Nat.toDigits 10 n, escapeChar c = [c] := by
    intro c hc
    have hdigit := Nat.isDigit_of_mem_toDigits (by decide) (by decide) hc
    have htilde : c ≠ '~' := by
      rintro rfl
      cases hdigit
    have hslash : c ≠ '/' := by
      rintro rfl
      cases hdigit
    rw [escapeChar, if_neg htilde, if_neg hslash]
  rw [escapeToken, Nat.toString_eq_ofList_toDigits, String.toList_ofList, List.flatMap_def,
    List.map_congr_left hdigits, ← List.flatMap_def, List.flatMap_singleton']

/-- A pointer leads into another when the other's text goes on with a slash after its own, for that
slash separates pieces of the other's text. -/
theorem tokens_prefix_iff (p q : Pointer) :
    p.tokens <+: q.tokens ↔
      p.text = "" ∨ p.text = q.text ∨ (p.text ++ "/").toList <+: q.text.toList := by
  constructor
  · rintro ⟨rest, hrest⟩
    have hchars : q.chars = p.chars ++ Pointer.chars ⟨rest⟩ := by rw [← chars_append, hrest]
    cases rest with
    | nil =>
      refine .inr (.inl ?_)
      rw [text, text, hchars]
      simp [Pointer.chars]
    | cons token rest =>
      refine .inr (.inr ⟨escapeToken token ++ Pointer.chars ⟨rest⟩, ?_⟩)
      rw [text, text, hchars]
      simp [Pointer.chars, escapeToken]
  · rintro (hroot | heq | ⟨more, hmore⟩)
    · have hp : p = root := text_injective hroot
      rw [hp]
      exact List.nil_prefix
    · cases text_injective heq
      exact List.prefix_rfl
    · have hchars : q.chars = p.chars ++ '/' :: more := by simpa [text] using hmore.symm
      have hpieces := congrArg (List.splitOn '/') hchars
      rw [List.splitOn_append_cons_self, splitOn_chars, splitOn_chars] at hpieces
      have hescaped : p.tokens.map escapeToken <+: q.tokens.map escapeToken :=
        ⟨_, (List.cons.inj hpieces).2.symm⟩
      exact (List.prefix_map_iff_of_injective escapeToken_injective).mp hescaped

/-- Nothing is lost in the text of a pointer but the difference between an index and its numeral.
Decoded, the text gives the tokens of the segments. Two texts are equal only where the tokens are,
and the tokens of one pointer begin those of another just where the texts tell. -/
theorem text_tells_tokens (segments others : List Segment) :
    (∀ key, ((ofSegments segments).child key).text =
      (ofSegments segments).text ++ "/" ++ String.ofList (escapeToken key)) ∧
    (∀ n, ((ofSegments segments).element n).text =
      (ofSegments segments).text ++ "/" ++ toString n) ∧
    ofText? (ofSegments segments).text = some ⟨segments.map Segment.token⟩ ∧
    (ofSegments segments = ofSegments others ↔
      (ofSegments segments).text = (ofSegments others).text) ∧
    ((ofSegments segments).text = (ofSegments others).text ↔
      segments.map Segment.token = others.map Segment.token) ∧
    (segments.map Segment.token <+: others.map Segment.token ↔
      (ofSegments segments).text = "" ∨
        (ofSegments segments).text = (ofSegments others).text ∨
        ((ofSegments segments).text ++ "/").toList <+: (ofSegments others).text.toList) := by
  have htokens (list : List Segment) : ofSegments list = ⟨list.map Segment.token⟩ :=
    congrArg Pointer.mk (ofSegments_tokens list)
  refine ⟨fun key => text_push _ (.key key), fun n => ?_, ?_, (text_eq_iff _ _).symm, ?_, ?_⟩
  · rw [element, text_push, Segment.token, escapeToken_toString, String.ofList_toList]
  · rw [ofText?_text, htokens]
  · rw [text_eq_iff, htokens, htokens, Pointer.mk.injEq]
  · rw [← tokens_prefix_iff, ofSegments_tokens, ofSegments_tokens]

example : (ofSegments [.key "~1", .key "", .index 0]).text = "/~01//0" := by decide

end Pointer

end SampleModels
