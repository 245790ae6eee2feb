import Mathlib.Data.List.Infix
import SemanticLayer.Proofs.Piece
import SemanticLayer.Sql.Lexer
import SemanticLayer.Text.Quoted

/-!
# Fragments of SQL text

A *fragment* is a text that stands between two others. `scan` cuts a fragment alone, before the
character that follows it. The main result `reads_fragment` says that the fragment is cut into the
same tokens inside a longer text, comments aside, if no piece of it can go on over that character.
`tokenize_of_reads` puts the fragments of a whole text together.
-/

namespace SemanticLayer.Sql

/-- The token without its comments. -/
def Token.bare (t : Token) : Token := { t with comments := [] }

@[simp] theorem Token.bare_key {t : Token} : t.bare.key = t.key := rfl
@[simp] theorem Token.bare_addComments {t : Token} {cs : List String} :
    (t.addComments cs).bare = t.bare := rfl

namespace Lexer

open SemanticLayer.Text (isBlank)

variable {g : Grammar} {b : Char} {xs k text text' text'' : List Char} {n : Nat} {c : Cut}
  {ts us vs : List Token} {p : Piece} {rest : List Char}

/-! ## The tokens of a fragment -/

/-- The token that a piece is after a token with the key `last`. -/
def Piece.token? (g : Grammar) (last : Option String) : Piece → Option Token
  | .blank _ => none
  | .comment _ => none
  | .hint text =>
    if last.any ["SELECT", "INSERT", "UPDATE", "DELETE"].contains then
      some { kind := .symbol, text, key := "/*+" }
    else none
  | .word text => some { kind := .word, text, key := g.keyword (Text.upper text) }
  | .token kind text key => some { kind, text, key }

/-- Whether a token after one with the key `last` begins a statement that is kept as plain text. -/
def beginsPlain (last : Option String) (t : Token) : Bool :=
  last.all (fun key => key == ";" || key == "BEGIN") && Cut.plainStatements.contains t.key

/-- The tokens of a text up to the character `stop` at its end, after a token with the key `last`,
in at most `n` pieces. `none` if a piece goes on over `stop`. -/
def scan (g : Grammar) (stop : Char) : Nat → Option String → List Char → Option (List Token)
  | _, _, [] => none
  | 0, _, a :: cs => if a == stop && cs.isEmpty then some [] else none
  | n + 1, last, a :: cs =>
    if a == stop && cs.isEmpty then some []
    else (piece? g a cs).bind fun r =>
      match r.1.token? g last with
      | none => scan g stop n last r.2
      | some t =>
        if beginsPlain last t then none else (scan g stop n (some t.key) r.2).map (t :: ·)

/-- The tokens of a fragment between a token with the key `last` and the character `stop`. -/
def fragment? (g : Grammar) (last : Option String) (text : List Char) (stop : Char) :
    Option (List Token) :=
  scan g stop text.length last (text ++ [stop])

theorem scan_nil {stop : Char} {last : Option String} : scan g stop n last [] = none := by
  cases n <;> rfl

theorem scan_stop {stop : Char} {last : Option String} : scan g stop n last [stop] = some [] := by
  cases n <;> simp [scan]

/-- Before the last character a piece is cut off. -/
theorem scan_cons {stop a : Char} {last : Option String} (htext : text ≠ [])
    (h : scan g stop n last (a :: text) = some us) :
    ∃ m p rest vs, n = m + 1 ∧ piece? g a text = some (p, rest) ∧
      (∀ t ∈ p.token? g last, beginsPlain last t = false) ∧
      us = (p.token? g last).toList ++ vs ∧
      scan g stop m (((p.token? g last).map Token.key).or last) rest = some vs := by
  cases n with
  | zero => simp [scan, htext] at h
  | succ m =>
    rw [scan, if_neg (by simp [htext])] at h
    obtain ⟨⟨p, rest⟩, hp, h⟩ := Option.bind_eq_some_iff.mp h
    refine ⟨m, p, rest, ?_⟩
    dsimp only at h
    split at h
    · next ht => exact ⟨us, rfl, hp, by simp [ht], by simp [ht], by simpa [ht] using h⟩
    · next t ht =>
      split at h
      · exact nomatch h
      · next hplain =>
        obtain ⟨vs, hvs, rfl⟩ := Option.map_eq_some_iff.mp h
        exact ⟨vs, rfl, hp, by simpa [ht] using hplain, by simp [ht], by simpa [ht] using hvs⟩

/-! ## Cuts -/

def lastKey (ts : List Token) : Option String := ts.getLast?.map Token.key

/-- A cut has the tokens `ts`, comments aside, and `text` is left. -/
structure Cut.Shows (c : Cut) (ts : List Token) (text : List Char) : Prop where
  rest : c.rest = text
  tokens : c.tokens.reverse.map Token.bare = ts
  plain : c.plain = none

theorem lastKey_append {last : Option Token} :
    lastKey (ts ++ last.toList) = (last.map Token.key).or (lastKey ts) := by
  cases last <;> simp [lastKey]

theorem Cut.Shows.lastKey (h : c.Shows ts text) : c.tokens.head?.map Token.key = lastKey ts := by
  rw [Lexer.lastKey, ← h.tokens, List.getLast?_map, List.getLast?_reverse, Option.map_map]
  rfl

theorem Cut.Shows.push (h : c.Shows ts text) {kind : TokenKind} {s key : String} :
    (c.push kind s key rest).Shows (ts ++ [{ kind, text := s, key }]) rest :=
  ⟨rfl, by simp [Cut.push, ← h.tokens, Token.bare], h.plain⟩

theorem Cut.Shows.comment (h : c.Shows ts text) {s : String} :
    (c.comment s rest).Shows ts rest := by
  unfold Cut.comment
  split
  · next t ts' _ hts =>
    refine ⟨rfl, ?_, h.plain⟩
    simpa [hts] using h.tokens
  · exact ⟨rfl, h.tokens, h.plain⟩

theorem Cut.Shows.takesHint (h : c.Shows ts text) : c.takesHint =
    (Lexer.lastKey ts).any ["SELECT", "INSERT", "UPDATE", "DELETE"].contains := by
  rw [Cut.takesHint, ← h.lastKey]
  cases c.tokens.head? <;> rfl

theorem Cut.Shows.atStatement (h : c.Shows ts text) :
    c.atStatement = (Lexer.lastKey ts).all fun key => key == ";" || key == "BEGIN" := by
  rw [Cut.atStatement, ← h.lastKey]
  cases c.tokens.head? <;> rfl

theorem Cut.Shows.word (h : c.Shows ts text) {s : String}
    (hb : beginsPlain (Lexer.lastKey ts)
      { kind := .word, text := s, key := g.keyword (Text.upper s) } = false) :
    (c.word g s rest).Shows
      (ts ++ [{ kind := .word, text := s, key := g.keyword (Text.upper s) }]) rest := by
  rw [beginsPlain, ← h.atStatement] at hb
  dsimp only [Cut.word] at hb ⊢
  rw [hb, Bool.false_and, Bool.false_and, if_neg Bool.false_ne_true]
  exact h.push

theorem Cut.Shows.endPlain (h : c.Shows ts text) : c.endPlain = c := by
  rw [Cut.endPlain, h.plain]

/-- A piece adds its token. -/
theorem Cut.Shows.add (h : c.Shows ts text)
    (hb : ∀ t ∈ p.token? g (Lexer.lastKey ts), beginsPlain (Lexer.lastKey ts) t = false) :
    (c.add g p rest).Shows (ts ++ (p.token? g (Lexer.lastKey ts)).toList) rest := by
  cases p with
  | blank breaks => exact ⟨rfl, by simp [Piece.token?, Cut.add, h.tokens], h.plain⟩
  | comment s => simpa [Piece.token?, Cut.add] using h.comment
  | hint s =>
    rw [Cut.add, h.takesHint]
    dsimp only [Piece.token?]
    split
    · exact h.push
    · simpa using h.comment
  | word s => exact h.word (hb _ rfl)
  | token kind s key =>
    rw [Cut.add, h.endPlain, ite_self]
    exact h.push

/-! ## Runs -/

theorem Cut.run_add {m : Nat} : Cut.run g (n + m) c = (Cut.run g n c).bind (Cut.run g m) := by
  induction n generalizing c with
  | zero => rw [Nat.zero_add]; rfl
  | succ n ih =>
    rw [Nat.succ_add, Cut.run, Cut.run]
    split
    · next hrest =>
      rw [Option.bind_some]
      cases m with
      | zero => rfl
      | succ m => rw [Cut.run, if_pos hrest]
    · rw [Option.bind_assoc]
      exact congrArg _ (funext fun _ => ih)

/-- Cutting goes on from the tokens `ts` before `text` to the tokens `us` before `text'`, in no more
pieces than there are characters between. -/
def Reads (g : Grammar) (ts : List Token) (text : List Char) (us : List Token)
    (text' : List Char) : Prop :=
  ∀ c : Cut, c.Shows ts text → ∃ n d, Cut.run g n c = some d ∧ d.Shows us text' ∧
    n + text'.length ≤ text.length

theorem Reads.trans (h : Reads g ts text us text') (h' : Reads g us text' vs text'') :
    Reads g ts text vs text'' := by
  intro c hc
  obtain ⟨n, d, hn, hd, hlength⟩ := h c hc
  obtain ⟨m, e, hm, he, hlength'⟩ := h' d hd
  exact ⟨n + m, e, by rw [Cut.run_add, hn]; exact hm, he, by omega⟩

/-- A text that is cut to its end has the tokens found on the way. -/
theorem tokenize_of_reads {s : String} (h : Reads g [] s.toList ts []) :
    ∃ us, tokenize g s = some us ∧ us.map Token.bare = ts := by
  obtain ⟨n, d, hn, hd, hlength⟩ := h { rest := s.toList } ⟨rfl, rfl, rfl⟩
  obtain ⟨m, hm⟩ := Nat.le.dest (Nat.le_of_add_right_le hlength)
  have hrun : Cut.run g s.toList.length { rest := s.toList } = some d := by
    rw [← hm, Cut.run_add, hn]
    cases m with
    | zero => rfl
    | succ m => rw [Option.bind_some, Cut.run, if_pos (by simp [hd.rest])]
  refine ⟨d.finish, by rw [tokenize, hrun, Option.map_some], ?_⟩
  rw [Cut.finish, hd.endPlain, ← hd.tokens]
  cases d.tokens <;> simp

/-- A piece that ends before a separator is cut off a longer text too. -/
theorem Cut.Shows.step {a : Char} (hc : c.Shows ts (a :: (xs ++ [b] ++ k)))
    (hb : EndsPiece g b) (hk : isBlank b = true ∨ k.head?.all isBlank = true)
    (hphrases : PhrasesEnd g (a :: xs) b k) (hp : piece? g a (xs ++ [b]) = some (p, rest))
    (hrest : rest ≠ []) : c.step g = some (c.add g p (rest ++ k)) := by
  rw [Cut.step, hc.rest]
  dsimp only
  rw [piece?_append hb hphrases hk hp hrest, Option.map_some]

/-- A fragment is cut into the same tokens in a longer text. -/
theorem Cut.Shows.run_scan (hb : EndsPiece g b)
    (hk : isBlank b = true ∨ k.head?.all isBlank = true)
    (hphrases : ∀ zs, zs ≠ [] → zs <:+ xs → PhrasesEnd g zs b k)
    (h : scan g b n (Lexer.lastKey ts) (xs ++ [b]) = some us) (hc : c.Shows ts (xs ++ [b] ++ k)) :
    ∃ m ≤ n, ∃ d, Cut.run g m c = some d ∧ d.Shows (ts ++ us) ([b] ++ k) := by
  induction n generalizing xs ts us c with
  | zero =>
    cases xs with
    | nil =>
      obtain rfl := Option.some.inj (scan_stop.symm.trans h)
      exact ⟨0, Nat.le_refl 0, c, rfl, by simpa using hc⟩
    | cons a xs => simp [scan] at h
  | succ n ih =>
    cases xs with
    | nil =>
      obtain rfl := Option.some.inj (scan_stop.symm.trans h)
      exact ⟨0, Nat.zero_le _, c, rfl, by simpa using hc⟩
    | cons a xs =>
      obtain ⟨m, p, rest, vs, hm, hp, hplain, rfl, hvs⟩ := scan_cons (by simp) h
      obtain rfl := Nat.succ.inj hm
      -- A piece that goes on over the separator leaves nothing to scan.
      have hrest : rest ≠ [] := by
        rintro rfl
        exact nomatch scan_nil.symm.trans hvs
      have hsuffix : rest <:+ (a :: xs) ++ [b] := piece?_suffix hp
      obtain ⟨zs, rfl, hzs⟩ := (List.suffix_concat_iff.mp hsuffix).resolve_left hrest
      have hstep := hc.step hb hk (hphrases (a :: xs) (by simp) List.suffix_rfl) hp hrest
      rw [← lastKey_append] at hvs
      obtain ⟨m, hm, d, hd, hshows⟩ :=
        ih (fun ys hne hys => hphrases ys hne (hys.trans hzs)) hvs (hc.add hplain)
      refine ⟨m + 1, Nat.succ_le_succ hm, d, ?_, by simpa using hshows⟩
      rw [Cut.run, if_neg (by simp [hc.rest]), hstep, Option.bind_some, hd]

/-- A fragment is cut into the same tokens inside a longer text. -/
theorem reads_fragment (hb : EndsPiece g b)
    (hk : isBlank b = true ∨ k.head?.all isBlank = true)
    (hphrases : ∀ zs, zs ≠ [] → zs <:+ xs → PhrasesEnd g zs b k)
    (h : fragment? g (lastKey ts) xs b = some us) :
    Reads g ts (xs ++ b :: k) (ts ++ us) (b :: k) := by
  intro c hc
  rw [← List.singleton_append, ← List.append_assoc] at hc
  obtain ⟨m, hm, d, hd, hshows⟩ := hc.run_scan hb hk hphrases h
  exact ⟨m, d, hd, hshows, by simp; omega⟩

/-! ## Separators -/

/-- No piece of a text goes on over `b` where `x` follows: what stands before `b` can be cut
without looking further. -/
structure Separates (g : Grammar) (b x : Char) : Prop where
  ends : EndsPiece g b
  blank : isBlank b = true ∨ isBlank x = true
  words : ∀ ws ∈ g.phrases ++ Vocabulary.phrases, ∀ w ∈ ws, EndsWord b w.toList
  next : ∀ ws ∈ g.phrases ++ Vocabulary.phrases, ∀ w ∈ ws.tail, NotAfter b [x] w.toList

theorem Separates.reads {x : Char} (h : Separates g b x)
    (hf : fragment? g (lastKey ts) xs b = some us) :
    Reads g ts (xs ++ b :: x :: k) (ts ++ us) (b :: x :: k) := by
  refine reads_fragment h.ends (h.blank.imp_right fun hx => by simp [hx]) ?_ hf
  exact fun zs _ _ => .of_next fun ws hws => ⟨h.words ws hws, h.next ws hws⟩

/-- A fragment of one piece. -/
theorem fragment?_piece {a stop : Char} {last : Option String} {t : Token}
    (hp : piece? g a (xs ++ [stop]) = some (p, [stop])) (ht : p.token? g last = some t)
    (hplain : Cut.plainStatements.contains t.key = false) :
    fragment? g last (a :: xs) stop = some [t] := by
  rw [fragment?, List.length_cons, List.cons_append, scan, if_neg (by simp), hp, Option.bind_some]
  simp only [ht, beginsPlain, hplain, Bool.and_false, Bool.false_eq_true, if_false, scan_stop,
    Option.map_some]

/-- The text is the token `t` before a blank, whatever stands before it and after the blank. -/
structure Stands (g : Grammar) (xs : List Char) (t : Token) : Prop where
  cut : ∀ last, fragment? g last xs ' ' = some [t]
  /-- No keyword begins inside the text. -/
  alone : ∀ zs ∈ xs.tails, zs ≠ [] → ∀ ws ∈ g.phrases ++ Vocabulary.phrases,
    ∃ w ∈ ws.head?, EndsWord ' ' w.toList ∧ afterWord? w.toList (zs ++ [' ']) = none

theorem Stands.reads {t : Token} (h : Stands g xs t) (hb : EndsPiece g ' ') :
    Reads g ts (xs ++ ' ' :: k) (ts ++ [t]) (' ' :: k) :=
  reads_fragment hb (.inl (by decide))
    (fun zs hne hzs => .of_first (h.alone zs ((List.mem_tails zs xs).mpr hzs) hne))
    (h.cut (lastKey ts))

/-- A piece is read by itself. -/
theorem reads_piece {a : Char} (hp : piece? g a text = some (p, rest))
    (hlength : rest.length ≤ text.length)
    (hplain : ∀ t ∈ p.token? g (lastKey ts), beginsPlain (lastKey ts) t = false) :
    Reads g ts (a :: text) (ts ++ (p.token? g (lastKey ts)).toList) rest := by
  intro c hc
  refine ⟨1, c.add g p rest, ?_, hc.add hplain, by rw [List.length_cons]; omega⟩
  rw [Cut.run, if_neg (by simp [hc.rest]), Cut.step, hc.rest]
  simp [hp, Cut.run]

theorem reads_blank : Reads g ts (' ' :: k) ts k := by
  have h : Reads g ts (' ' :: k) (ts ++ ((Piece.blank false).token? g (lastKey ts)).toList) k :=
    reads_piece rfl (Nat.le_refl _) (by simp [Piece.token?])
  simpa [Piece.token?] using h

/-! ## Quoted names -/

/-- Whether a backslash stands before a character that it changes. -/
def hasEscape : List Char → Bool
  | c :: d :: cs => c == '\\' && (unescape? d).isSome || hasEscape (d :: cs)
  | _ => false

theorem hasEscape_cons {c : Char} {cs : List Char} (h : hasEscape (c :: cs) = false) :
    hasEscape cs = false ∧ (c = '\\' → ∀ d ∈ cs.head?, unescape? d = none) := by
  cases cs with
  | nil => exact ⟨rfl, by simp⟩
  | cons d cs =>
    simp only [hasEscape, Bool.or_eq_false_iff, Bool.and_eq_false_iff, beq_eq_false_iff_ne] at h
    refine ⟨h.2, fun hc => ?_⟩
    simpa using h.1.resolve_left (· hc)

/-- A quote that names are put in: it is doubled inside, and nothing else is changed. -/
structure QuotesNames (g : Grammar) (q : Char) : Prop where
  isQuote : g.nameQuotes.contains q = true
  notEscaped : unescape? q = none
  ne : q ≠ '\\'
  notBlank : isBlank q = false
  notDigit : Text.isDigit q = false

variable {q : Char}

theorem quoted?_close (hq : QuotesNames g q) (hk : k.head? ≠ some q) :
    quoted? (nameQuoting g q) (q :: k) = some ([], k) := by
  cases k with
  | nil => simp [quoted?, nameQuoting]
  | cons y k =>
    have hy : y ≠ q := by simpa using hk
    simp [quoted?, nameQuoting, hy, hq.ne]

theorem quoted?_pair (hq : QuotesNames g q) :
    quoted? (nameQuoting g q) (q :: q :: k) =
      (quoted? (nameQuoting g q) k).map fun r => (q :: r.1, r.2) := by
  simp [quoted?, nameQuoting, hq.ne]

theorem quoted?_plain {c : Char} (hc : c ≠ q) (hk : k ≠ [])
    (hescape : g.backslashEscapes = true → c = '\\' → ∀ d ∈ k.head?, unescape? d = none) :
    quoted? (nameQuoting g q) (c :: k) =
      (quoted? (nameQuoting g q) k).map fun r => (c :: r.1, r.2) := by
  cases k with
  | nil => exact absurd rfl hk
  | cons d k =>
    have hnone : (if ((nameQuoting g q).backslash && c == '\\') = true then unescape? d
        else none) = none := by
      split
      · next hb =>
        simp only [Bool.and_eq_true, beq_iff_eq] at hb
        exact hescape hb.1 hb.2 d rfl
      · rfl
    rw [quoted?, hnone]
    simp [nameQuoting, hc]

/-- A name in quotes is read back. -/
theorem quoted?_doubled (hq : QuotesNames g q) {name : List Char}
    (hname : g.backslashEscapes = true → hasEscape name = false) (hk : k.head? ≠ some q) :
    quoted? (nameQuoting g q)
      ((name.flatMap fun c => if c == q then [c, c] else [c]) ++ q :: k) = some (name, k) := by
  induction name with
  | nil => exact quoted?_close hq hk
  | cons c name ih =>
    have ih := ih fun hb => (hasEscape_cons (hname hb)).1
    rw [List.flatMap_cons, List.append_assoc]
    by_cases hc : c = q
    · rw [if_pos (by simpa using hc), hc, List.cons_append, List.singleton_append,
        quoted?_pair hq, ih, Option.map_some]
    · rw [if_neg (by simpa using hc), List.singleton_append,
        quoted?_plain hc (by simp) fun hb hslash d hd => ?_, ih, Option.map_some]
      -- The next character is the next one of the name, or the closing quote.
      cases name with
      | nil =>
        obtain rfl : q = d := by simpa using hd
        exact hq.notEscaped
      | cons e name =>
        have hde : d = e := by
          rw [List.flatMap_cons] at hd
          split at hd <;> simpa using hd.symm
        exact (hasEscape_cons (hname hb)).2 hslash d (by simp [hde])

/-- A name in quotes is one token with the name as its text. -/
theorem fragment?_quoted (hq : QuotesNames g q) {name : String} {last : Option String} {stop : Char}
    (hname : g.backslashEscapes = true → hasEscape name.toList = false) (hstop : stop ≠ q) :
    fragment? g last (Text.quoted q name).toList stop =
      some [{ kind := .quotedName, text := name, key := "" }] := by
  have hquoted : (Text.quoted q name).toList = q :: ((name.toList.flatMap
      fun c => if c == q then [c, c] else [c]) ++ [q]) := by
    simp [Text.quoted, Text.doubled]
  have hpiece : piece? g q (((name.toList.flatMap
      fun c => if c == q then [c, c] else [c]) ++ [q]) ++ [stop]) =
      some (.token .quotedName name "", [stop]) := by
    rw [List.append_assoc, List.singleton_append, piece?, if_neg (by simp [hq.notBlank]), if_neg (by simp [hq.notDigit]),
      if_pos hq.isQuote, quotedPiece?, quoted?_doubled hq hname (by simpa using hstop)]
    simp
  rw [hquoted]
  exact fragment?_piece hpiece rfl rfl

end Lexer

end SemanticLayer.Sql
