import CertCatalog.Proofs.Query.Quoting
import Mathlib.Logic.ExistsUnique

/-!
# Spans of a query text

A text is cut in exactly one way into blanks, other plain characters and quoted spans, the last of
which may be open at the end. The tokens of the text are what stands between its blanks, without the
quotes of the spans, and an open span counts as if its quote closed it at the end. So nothing but
these quotes and blanks is lost, and a further quote at the end closes the open span or opens an
empty one.
-/

namespace CertCatalog.Query

/-! ### Pieces of a text -/

/-- A piece of a text: a blank or another character outside spans, or a closed span. -/
inductive Piece
  | blank (c : Char)
  | plain (c : Char)
  | span (quote : Char) (inside : List Char)
  deriving DecidableEq, Repr

namespace Piece

/-- The characters of a piece. A span stands between two quotes of its kind. -/
def chars : Piece → List Char
  | blank c => [c]
  | plain c => [c]
  | span quote inside => quote :: (inside ++ [quote])

/-- The characters that a piece adds to a token. -/
def content : Piece → List Char
  | blank _ => []
  | plain c => [c]
  | span _ inside => inside

/-- A piece that ends a token. -/
def isBlank : Piece → Bool
  | blank _ => true
  | _ => false

/-- Blanks are blank, plain characters are neither blanks nor quotes, and a span does not contain
its own quote. -/
def IsProper : Piece → Prop
  | blank c => Text.isBlank c = true
  | plain c => isQuote c = false ∧ Text.isBlank c = false
  | span quote inside => isQuote quote = true ∧ quote ∉ inside

end Piece

/-- A text in pieces: complete ones, and the quote and the characters of a span that is still open
at the end. -/
structure Pieces where
  complete : List Piece
  openSpan : Option (Char × List Char)
  deriving DecidableEq, Repr

namespace Pieces

/-- The pieces with the open span closed at the end. -/
def closed (p : Pieces) : List Piece :=
  p.complete ++ (p.openSpan.map fun (quote, inside) ↦ Piece.span quote inside).toList

/-- Every piece is proper, and so is the open span. -/
def IsProper (p : Pieces) : Prop := ∀ piece ∈ p.closed, piece.IsProper

/-- The characters of an open span. -/
def openChars : Option (Char × List Char) → List Char
  | none => []
  | some (quote, inside) => quote :: inside

/-- The characters of all pieces in order. -/
def chars (p : Pieces) : List Char := p.complete.flatMap Piece.chars ++ openChars p.openSpan

/-- The characters without blanks outside spans and without the quotes of spans. -/
def content (p : Pieces) : List Char := p.closed.flatMap Piece.content

/-- What stands between the blanks of a row of pieces. -/
def segments (pieces : List Piece) : List (List Char) :=
  (pieces.splitOnP Piece.isBlank).map (·.flatMap Piece.content)

/-- What stands between the blanks, where that is not empty. -/
def words (p : Pieces) : List (List Char) := (segments p.closed).filter (!·.isEmpty)

/-! ### Cutting a text -/

private theorem chars_span_append (quote : Char) (inside rest : List Char) :
    (Piece.span quote inside).chars ++ rest = quote :: (inside ++ quote :: rest) := by
  simp [Piece.chars]

private theorem chars_cons (piece : Piece) (pieces : List Piece)
    (openSpan : Option (Char × List Char)) :
    chars ⟨piece :: pieces, openSpan⟩ = piece.chars ++ chars ⟨pieces, openSpan⟩ := by
  simp [chars]

private theorem isProper_cons_iff {piece : Piece} {pieces : List Piece}
    {openSpan : Option (Char × List Char)} :
    IsProper ⟨piece :: pieces, openSpan⟩ ↔ piece.IsProper ∧ IsProper ⟨pieces, openSpan⟩ := by
  simp [IsProper, closed]

private theorem isProper_iff {p : Pieces} :
    p.IsProper ↔ (∀ piece ∈ p.complete, piece.IsProper) ∧
      ∀ span ∈ p.openSpan, (Piece.span span.1 span.2).IsProper := by
  obtain ⟨pieces, openSpan⟩ := p
  cases openSpan <;> simp [IsProper, closed, or_imp, forall_and]

/-- Every text is cut into proper pieces. The first character decides about the first piece, and a
quote that does not return leaves a span open. -/
theorem exists_isProper (cs : List Char) : ∃ p : Pieces, p.IsProper ∧ p.chars = cs := by
  -- A span takes many characters at once, so the induction is on the length.
  induction h : cs.length using Nat.strongRecOn generalizing cs with
  | _ n ih =>
    subst h
    cases cs with
    | nil => exact ⟨⟨[], none⟩, by simp [IsProper, closed], rfl⟩
    | cons c rest =>
      by_cases hquote : isQuote c = true
      · by_cases hreturn : c ∈ rest
        · obtain ⟨inside, rest', rfl, hinside⟩ := List.eq_append_cons_of_mem hreturn
          obtain ⟨⟨pieces, openSpan⟩, hproper, hchars⟩ :=
            ih rest'.length (by simp; omega) rest' rfl
          refine ⟨⟨.span c inside :: pieces, openSpan⟩,
            isProper_cons_iff.mpr ⟨⟨hquote, hinside⟩, hproper⟩, ?_⟩
          rw [chars_cons, hchars, chars_span_append]
        · exact ⟨⟨[], some (c, rest)⟩, by simp [IsProper, closed, Piece.IsProper, hquote, hreturn],
            rfl⟩
      · obtain ⟨⟨pieces, openSpan⟩, hproper, hchars⟩ := ih rest.length (by simp) rest rfl
        by_cases hblank : Text.isBlank c = true
        · refine ⟨⟨.blank c :: pieces, openSpan⟩, isProper_cons_iff.mpr ⟨hblank, hproper⟩, ?_⟩
          rw [chars_cons, hchars]
          rfl
        · refine ⟨⟨.plain c :: pieces, openSpan⟩, isProper_cons_iff.mpr ⟨?_, hproper⟩, ?_⟩
          · simpa [Piece.IsProper] using And.intro hquote hblank
          · rw [chars_cons, hchars]
            rfl

private theorem append_cons_inj {c : Char} {a b rest rest' : List Char} (ha : c ∉ a) (hb : c ∉ b)
    (h : a ++ c :: rest = b ++ c :: rest') : a = b ∧ rest = rest' := by
  induction a generalizing b with
  | nil =>
    cases b with
    | nil => simpa using h
    | cons d b =>
      obtain ⟨rfl, -⟩ := List.cons.inj h
      exact absurd List.mem_cons_self hb
  | cons d a ih =>
    cases b with
    | nil =>
      obtain ⟨rfl, -⟩ := List.cons.inj h
      exact absurd List.mem_cons_self ha
    | cons e b =>
      simp only [List.cons_append, List.cons.injEq] at h
      obtain ⟨rfl, hrest⟩ := h
      simp only [List.mem_cons, not_or] at ha hb
      simpa using ih ha.2 hb.2 hrest

private theorem eq_of_chars_append_eq {a b : Piece} {rest rest' : List Char} (ha : a.IsProper)
    (hb : b.IsProper) (h : a.chars ++ rest = b.chars ++ rest') : a = b ∧ rest = rest' := by
  have hblank := @Tokens.isQuote_of_isBlank
  cases a <;> cases b
  case span.span quote inside quote' inside' =>
    rw [chars_span_append, chars_span_append, List.cons.injEq] at h
    obtain ⟨rfl, h⟩ := h
    obtain ⟨rfl, rfl⟩ := append_cons_inj ha.2 hb.2 h
    exact ⟨rfl, rfl⟩
  all_goals
    simp only [Piece.chars, Piece.IsProper, List.cons_append, List.nil_append,
      List.cons.injEq] at h ha hb
    grind

private theorem chars_append_ne_openChars {a : Piece} (ha : a.IsProper) {quote : Char}
    {inside : List Char} (hopen : (Piece.span quote inside).IsProper) (rest : List Char) :
    a.chars ++ rest ≠ openChars (some (quote, inside)) := by
  intro h
  unfold openChars at h
  cases a with
  | blank c =>
    obtain ⟨rfl, -⟩ := List.cons.inj h
    exact absurd hopen.1 (by simp [Tokens.isQuote_of_isBlank ha])
  | plain c =>
    obtain ⟨rfl, -⟩ := List.cons.inj h
    exact absurd hopen.1 (by simp [ha.1])
  | span quote' inside' =>
    rw [chars_span_append, List.cons.injEq] at h
    obtain ⟨rfl, rfl⟩ := h
    exact hopen.2 (by simp)

private theorem chars_append_ne_nil (a : Piece) (rest : List Char) : a.chars ++ rest ≠ [] := by
  cases a <;> simp [Piece.chars]

/-- A text is cut into proper pieces in one way. -/
theorem eq_of_chars_eq {p q : Pieces} (hp : p.IsProper) (hq : q.IsProper)
    (h : p.chars = q.chars) : p = q := by
  obtain ⟨a, o⟩ := p
  obtain ⟨b, o'⟩ := q
  -- Both cuts have the same first piece, and neither ends before the other, since a complete piece
  -- is not the start of an open span.
  induction a generalizing b with
  | nil =>
    cases b with
    | nil =>
      simp only [chars, List.flatMap_nil, List.nil_append] at h
      cases o <;> cases o' <;> simp_all [openChars, Prod.ext_iff]
    | cons piece b =>
      rw [chars_cons] at h
      obtain ⟨hpiece, -⟩ := isProper_cons_iff.mp hq
      cases o with
      | none => exact absurd h.symm (chars_append_ne_nil piece _)
      | some span =>
        exact absurd h.symm (chars_append_ne_openChars hpiece (hp _ (by simp [closed])) _)
  | cons piece a ih =>
    obtain ⟨hpiece, ha⟩ := isProper_cons_iff.mp hp
    rw [chars_cons] at h
    cases b with
    | nil =>
      cases o' with
      | none => exact absurd h (chars_append_ne_nil piece _)
      | some span =>
        exact absurd h (chars_append_ne_openChars hpiece (hq _ (by simp [closed])) _)
    | cons piece' b =>
      obtain ⟨hpiece', hb⟩ := isProper_cons_iff.mp hq
      rw [chars_cons] at h
      obtain ⟨rfl, hrest⟩ := eq_of_chars_append_eq hpiece hpiece' h
      cases ih ha b hb hrest
      rfl

/-! ### Words of a text -/

private theorem segments_nil : segments [] = [[]] := by simp [segments]

private theorem segments_ne_nil (pieces : List Piece) : segments pieces ≠ [] := by simp [segments]

private theorem segments_cons (piece : Piece) (pieces : List Piece) :
    segments (piece :: pieces) =
      if piece.isBlank then [] :: segments pieces
      else (segments pieces).modifyHead (piece.content ++ ·) := by
  unfold segments
  rw [List.splitOnP_cons_eq_if_modifyHead]
  obtain ⟨first, others, hsplit⟩ :=
    List.exists_cons_of_ne_nil (List.splitOnP_ne_nil Piece.isBlank pieces)
  by_cases h : piece.isBlank = true <;> simp [h, hsplit]

private theorem modifyHead_nil_append (segments : List (List Char)) :
    segments.modifyHead ([] ++ ·) = segments := by
  cases segments <;> rfl

/-- The words in a row are the content. -/
theorem flatten_words (p : Pieces) : p.words.flatten = p.content := by
  unfold words content
  rw [List.flatten_filter_not_isEmpty]
  induction p.closed with
  | nil => simp [segments_nil]
  | cons piece pieces ih =>
    obtain ⟨first, others, hsegments⟩ := List.exists_cons_of_ne_nil (segments_ne_nil pieces)
    rw [segments_cons, List.flatMap_cons, ← ih, hsegments]
    cases piece <;> simp [Piece.isBlank, Piece.content]

/-- The pieces of a text without quotes. -/
def ofPlain (cs : List Char) : Pieces :=
  ⟨cs.map fun c ↦ if Text.isBlank c then .blank c else .plain c, none⟩

private theorem isProper_ofPlain {cs : List Char} (h : ∀ c ∈ cs, isQuote c = false) :
    (ofPlain cs).IsProper := by
  rw [isProper_iff]
  refine ⟨fun piece hpiece ↦ ?_, by simp [ofPlain]⟩
  obtain ⟨c, hc, rfl⟩ := List.mem_map.mp hpiece
  by_cases hblank : Text.isBlank c = true
  · simp [hblank, Piece.IsProper]
  · simpa [hblank, Piece.IsProper] using h c hc

private theorem chars_ofPlain (cs : List Char) : (ofPlain cs).chars = cs := by
  have hself : ∀ c, Piece.chars (if Text.isBlank c then .blank c else .plain c) = [c] := by
    intro c
    by_cases hblank : Text.isBlank c = true <;> simp [hblank, Piece.chars]
  simp [ofPlain, chars, openChars, List.flatMap_map, hself]

private theorem segments_ofPlain (cs : List Char) :
    segments (ofPlain cs).complete = cs.splitOnP Text.isBlank := by
  induction cs with
  | nil => simp [ofPlain, segments_nil]
  | cons c cs ih =>
    unfold ofPlain at ih ⊢
    rw [List.map_cons, segments_cons, List.splitOnP_cons_eq_if_modifyHead, ih]
    by_cases h : Text.isBlank c = true
    · simp [h, Piece.isBlank]
    · simp only [h, Bool.false_eq_true, if_false, Piece.isBlank]
      rfl

private theorem segments_concat_empty_span (pieces : List Piece) (quote : Char) :
    segments (pieces ++ [.span quote []]) = segments pieces := by
  induction pieces with
  | nil => simp [segments_nil, segments_cons, Piece.isBlank, Piece.content]
  | cons piece pieces ih => rw [List.cons_append, segments_cons, segments_cons, ih]

end Pieces

/-! ### Scanning pieces -/

namespace Tokens

private theorem push_filter (word : List Char) (words : List (List Char))
    (openQuote : Option Char) :
    push word ⟨words.filter (!·.isEmpty), openQuote⟩ =
      ⟨(word :: words).filter (!·.isEmpty), openQuote⟩ := by
  unfold push
  cases word <;> simp

private theorem scan_some_append {quote : Char} {inside : List Char} (h : quote ∉ inside)
    (current rest : List Char) :
    scan (some quote) current (inside ++ rest) = scan (some quote) (current ++ inside) rest := by
  induction inside generalizing current with
  | nil => simp
  | cons c inside ih =>
    simp only [List.mem_cons, not_or] at h
    rw [List.cons_append, scan_some_cons, if_neg (Ne.symm h.1), ih h.2]
    simp

private theorem scan_blank {c : Char} (h : (Piece.blank c).IsProper) (current rest : List Char) :
    scan none current ((Piece.blank c).chars ++ rest) = push current (scan none [] rest) := by
  have hblank : Text.isBlank c = true := h
  simp [Piece.chars, scan_none_cons, isQuote_of_isBlank hblank, hblank]

private theorem scan_plain {c : Char} (h : (Piece.plain c).IsProper) (current rest : List Char) :
    scan none current ((Piece.plain c).chars ++ rest) = scan none (current ++ [c]) rest := by
  simp [Piece.chars, scan_none_cons, h.1, h.2]

private theorem scan_span {quote : Char} {inside : List Char}
    (h : (Piece.span quote inside).IsProper)
    (current rest : List Char) :
    scan none current ((Piece.span quote inside).chars ++ rest) =
      scan none (current ++ inside) rest := by
  rw [Pieces.chars_span_append, scan_none_cons, if_pos h.1, scan_some_append h.2, scan_some_cons,
    if_pos rfl]

/-- The tokens of a text in pieces are its words, the first one behind the characters that the token
already has, and the open quote is that of the open span. The induction runs over the pieces, since
behind a complete piece the scan is outside spans. -/
theorem scan_chars {p : Pieces} (h : p.IsProper) (current : List Char) :
    scan none current p.chars =
      ⟨((Pieces.segments p.closed).modifyHead (current ++ ·)).filter (!·.isEmpty),
        p.openSpan.map Prod.fst⟩ := by
  obtain ⟨pieces, openSpan⟩ := p
  induction pieces generalizing current with
  | nil =>
    cases openSpan with
    | none =>
      have hend := push_filter current [] none
      simpa [Pieces.chars, Pieces.openChars, Pieces.closed, Pieces.segments_nil, scan] using hend
    | some span =>
      obtain ⟨quote, inside⟩ := span
      -- The open span counts as the last piece, and the scan ends inside it.
      obtain ⟨hquote, hinside⟩ : (Piece.span quote inside).IsProper := h _ (by simp [Pieces.closed])
      have hend := push_filter (current ++ inside) [] (some quote)
      have hread := scan_some_append hinside current []
      rw [List.append_nil, scan] at hread
      simpa [Pieces.chars, Pieces.openChars, Pieces.closed, Pieces.segments_nil,
        Pieces.segments_cons, Piece.isBlank, Piece.content, scan_none_cons, hquote, hread]
        using hend
  | cons piece pieces ih =>
    obtain ⟨hpiece, hrest⟩ := Pieces.isProper_cons_iff.mp h
    have hclosed : Pieces.closed ⟨piece :: pieces, openSpan⟩ =
        piece :: Pieces.closed ⟨pieces, openSpan⟩ := rfl
    rw [Pieces.chars_cons, hclosed, Pieces.segments_cons]
    cases piece with
    | blank c =>
      rw [scan_blank hpiece, ih _ hrest, push_filter, Pieces.modifyHead_nil_append]
      simp [Piece.isBlank]
    | plain c =>
      rw [scan_plain hpiece, ih _ hrest]
      simp [Piece.isBlank, Piece.content, Function.comp_def]
    | span quote inside =>
      rw [scan_span hpiece, ih _ hrest]
      simp [Piece.isBlank, Piece.content, Function.comp_def]

/-- The tokens of a text are the words of its pieces. -/
theorem ofText_of_chars {p : Pieces} (h : p.IsProper) {s : String} (hs : p.chars = s.toList) :
    ofText s = ⟨p.words, p.openSpan.map Prod.fst⟩ := by
  have hscan := scan_chars h []
  rw [Pieces.modifyHead_nil_append, hs] at hscan
  exact hscan

end Tokens

/-! ### A quote at the end -/

namespace Pieces

/-- The pieces of a text with a further quote. It closes the open span of its kind, stands inside an
open span of the other kind, and opens a span otherwise. -/
def addQuote (p : Pieces) (c : Char) : Pieces :=
  match p.openSpan with
  | none => ⟨p.complete, some (c, [])⟩
  | some (quote, inside) =>
    if c = quote then ⟨p.complete ++ [.span quote inside], none⟩
    else ⟨p.complete, some (quote, inside ++ [c])⟩

variable {p : Pieces} {c : Char}

private theorem chars_addQuote : (p.addQuote c).chars = p.chars ++ [c] := by
  obtain ⟨pieces, openSpan⟩ := p
  cases openSpan with
  | none => simp [addQuote, chars, openChars]
  | some span =>
    by_cases h : c = span.1
    · simp [addQuote, chars, openChars, Piece.chars, h]
    · simp [addQuote, chars, openChars, h]

private theorem IsProper.addQuote (h : p.IsProper) (hc : isQuote c = true) :
    (p.addQuote c).IsProper := by
  obtain ⟨pieces, openSpan⟩ := p
  obtain ⟨hcomplete, hopen⟩ := isProper_iff.mp h
  rw [isProper_iff]
  cases openSpan with
  | none =>
    refine ⟨hcomplete, fun span hspan ↦ ?_⟩
    cases hspan
    exact ⟨hc, List.not_mem_nil⟩
  | some span =>
    obtain ⟨hquote, hinside⟩ := hopen span rfl
    by_cases heq : c = span.1
    · simpa [Pieces.addQuote, heq, Piece.IsProper, or_imp, forall_and] using
        And.intro hcomplete (And.intro hquote hinside)
    · simpa [Pieces.addQuote, heq, Piece.IsProper, Ne.symm heq] using
        And.intro hcomplete (And.intro hquote hinside)

private theorem words_addQuote (h : ∀ quote ∈ p.openSpan.map Prod.fst, c = quote) :
    (p.addQuote c).words = p.words := by
  obtain ⟨pieces, openSpan⟩ := p
  cases openSpan with
  | none =>
    have hempty := segments_concat_empty_span pieces c
    simp [addQuote, words, closed, hempty]
  | some span =>
    obtain rfl : c = span.1 := h _ rfl
    simp [addQuote, words, closed]

private theorem openSpan_addQuote_eq_none_iff :
    (p.addQuote c).openSpan = none ↔ p.openSpan.map Prod.fst = some c := by
  obtain ⟨pieces, openSpan⟩ := p
  cases openSpan with
  | none => simp [addQuote]
  | some span => by_cases h : c = span.1 <;> simp [addQuote, h, eq_comm]

end Pieces

namespace Tokens

private theorem ofText_push {p : Pieces} (h : p.IsProper) {s : String} (hs : p.chars = s.toList)
    {c : Char}
    (hc : isQuote c = true) :
    ofText (s.push c) = ⟨(p.addQuote c).words, (p.addQuote c).openSpan.map Prod.fst⟩ := by
  apply ofText_of_chars (h.addQuote hc)
  rw [Pieces.chars_addQuote, hs, String.toList_push]

/-- A text without quotes is split at its blanks, and empty parts are dropped. -/
theorem words_ofText_of_plain {s : String} (h : ∀ c ∈ s.toList, isQuote c = false) :
    (ofText s).words = (s.toList.splitOnP Text.isBlank).filter (!·.isEmpty) := by
  rw [ofText_of_chars (Pieces.isProper_ofPlain h) (Pieces.chars_ofPlain _), Pieces.words,
    ← Pieces.segments_ofPlain]
  simp [Pieces.closed, Pieces.ofPlain]

/-- Only delimiters are lost, and an open quote closes at the end. No token is empty. A text is cut
into pieces in one way, and its tokens are the words of these pieces, which in a row are the text
without blanks outside spans and without the quotes of spans. A text without quotes is split at runs
of blanks. At the end of a text, the quote of an open span closes it, and no other quote does;
without an open span, either quote opens one. Neither changes a token. -/
theorem ofText_pieces (s : String) :
    (∀ token ∈ (ofText s).toList, token ≠ "") ∧
    (∃! p : Pieces, p.IsProper ∧ p.chars = s.toList) ∧
    (∀ p : Pieces, p.IsProper → p.chars = s.toList →
      (ofText s).toList = p.words.map String.ofList ∧
      String.join (ofText s).toList = String.ofList p.content ∧
      (ofText s).isUnterminated = p.openSpan.isSome) ∧
    ((∀ c ∈ s.toList, isQuote c = false) → (ofText s).toList =
      ((s.toList.splitOnP Text.isBlank).filter (!·.isEmpty)).map String.ofList) ∧
    ((ofText s).isUnterminated = true → ∃ quote, isQuote quote = true ∧
      (∀ c, isQuote c = true → ((ofText (s.push c)).isUnterminated = false ↔ c = quote)) ∧
      (ofText (s.push quote)).toList = (ofText s).toList) ∧
    ((ofText s).isUnterminated = false → ∀ c, isQuote c = true →
      (ofText (s.push c)).toList = (ofText s).toList ∧
      (ofText (s.push c)).isUnterminated = true) := by
  -- There is one cutting, so what it says about the tokens every cutting says.
  obtain ⟨p, hproper, hchars⟩ := Pieces.exists_isProper s.toList
  have hread := ofText_of_chars hproper hchars
  refine ⟨fun token ↦ ne_empty_of_mem_ofText, ⟨p, ⟨hproper, hchars⟩, ?_⟩, ?_, ?_, ?_, ?_⟩
  · rintro q ⟨hq, hqchars⟩
    exact Pieces.eq_of_chars_eq hq hproper (hqchars.trans hchars.symm)
  · intro q hq hqchars
    rw [ofText_of_chars hq hqchars]
    refine ⟨rfl, ?_, ?_⟩
    · rw [← String.toList_inj, String.toList_join, String.toList_ofList, ← Pieces.flatten_words]
      simp [toList, List.flatMap_def, Function.comp_def]
    · exact Option.isSome_map
  · intro hplain
    rw [toList, words_ofText_of_plain hplain]
  · intro hopen
    rw [hread, isUnterminated, Option.isSome_map] at hopen
    obtain ⟨⟨quote, inside⟩, hspan⟩ := Option.isSome_iff_exists.mp hopen
    have hquote : isQuote quote = true := ((Pieces.isProper_iff.mp hproper).2 _ hspan).1
    refine ⟨quote, hquote, fun c hc ↦ ?_, ?_⟩
    · rw [ofText_push hproper hchars hc, isUnterminated, Option.isSome_map,
        Option.isSome_eq_false_iff, Option.isNone_iff_eq_none,
        Pieces.openSpan_addQuote_eq_none_iff, hspan]
      simp [eq_comm]
    · rw [ofText_push hproper hchars hquote, hread, toList, toList,
        Pieces.words_addQuote (by simp [hspan])]
  · intro hclosed c hc
    rw [hread, isUnterminated, Option.isSome_map, Option.isSome_eq_false_iff,
      Option.isNone_iff_eq_none] at hclosed
    rw [ofText_push hproper hchars hc, hread]
    refine ⟨?_, ?_⟩
    · rw [toList, toList, Pieces.words_addQuote (by simp [hclosed])]
    · rw [isUnterminated, Option.isSome_map, ← Option.ne_none_iff_isSome, ne_eq,
        Pieces.openSpan_addQuote_eq_none_iff, hclosed]
      simp

/-- A text without quotes, one with an empty span, a span of blanks and the other quote, and one
with an open span. -/
theorem ofText_pieces_open_and_closed :
    let plain := " a\u3000b\t"
    let quoted := "x'' \"a' \"b"
    let unclosed := "tag:\"it's"
    let p : Pieces :=
      ⟨[.plain 't', .plain 'a', .plain 'g', .plain ':'], some ('"', "it's".toList)⟩
    ((∀ c ∈ plain.toList, isQuote c = false) ∧ (ofText plain).toList =
      ((plain.toList.splitOnP Text.isBlank).filter (!·.isEmpty)).map String.ofList) ∧
    ((ofText quoted).isUnterminated = false ∧ isQuote '\'' = true ∧
      (ofText (quoted.push '\'')).toList = (ofText quoted).toList ∧
      (ofText (quoted.push '\'')).isUnterminated = true) ∧
    (p.IsProper ∧ p.chars = unclosed.toList ∧
      String.join (ofText unclosed).toList = String.ofList p.content) ∧
    (ofText unclosed).isUnterminated = true ∧
      ∃ quote, isQuote quote = true ∧ (ofText (unclosed.push quote)).isUnterminated = false ∧
        (ofText (unclosed.push quote)).toList = (ofText unclosed).toList := by
  intro plain quoted unclosed p
  have hquotes : plain.toList.all (!isQuote ·) = true := by decide
  have hplain : ∀ c ∈ plain.toList, isQuote c = false := by simpa using hquotes
  have hclosed : (ofText quoted).isUnterminated = false := by decide
  have hopen : (ofText unclosed).isUnterminated = true := by decide
  have hquote : isQuote '\'' = true := by decide
  have hproper : p.IsProper := by simp [p, Pieces.isProper_iff, Piece.IsProper]; decide
  have hchars : p.chars = unclosed.toList := by decide
  obtain ⟨-, -, -, hsplit, -, -⟩ := ofText_pieces plain
  obtain ⟨-, -, -, -, -, hopens⟩ := ofText_pieces quoted
  obtain ⟨-, -, hwords, -, hcloses, -⟩ := ofText_pieces unclosed
  obtain ⟨quote, hkind, honly, htokens⟩ := hcloses hopen
  exact ⟨⟨hplain, hsplit hplain⟩, ⟨hclosed, hquote, hopens hclosed _ hquote⟩,
    ⟨hproper, hchars, (hwords p hproper hchars).2.1⟩, hopen, quote, hkind,
    (honly quote hkind).mpr rfl, htokens⟩

end Tokens
end CertCatalog.Query
