import Chip8.Yaml.Value.Document
import Mathlib.Data.List.TakeWhile

set_option autoImplicit false

/-! # What a word of letters reads as

A text of letters is one token, a plain scalar, whatever its length. So the document is that scalar,
and only its form decides what it stands for: null, a truth value, or the text itself
(`Value.ofText_word`). -/

namespace Chip8

theorem ok_bind {ε α β : Type} (x : α) (f : α → Except ε β) : (Except.ok x >>= f) = f x := rfl

namespace Yaml

/-! ## Letters -/

/-- Letters only, and one at least. -/
structure IsWord (cs : List Char) : Prop where
  ne_nil : cs ≠ []
  letters : ∀ c ∈ cs, c.isAlpha = true

theorem isWord_iff {cs : List Char} :
    IsWord cs ↔ (!cs.isEmpty && cs.all Char.isAlpha) = true := by
  rw [Bool.and_eq_true, Bool.not_eq_true', List.isEmpty_eq_false_iff, List.all_eq_true]
  exact ⟨fun h => ⟨h.ne_nil, h.letters⟩, fun h => ⟨h.1, h.2⟩⟩

instance (cs : List Char) : Decidable (IsWord cs) := decidable_of_iff _ isWord_iff.symm

theorem IsWord.exists_cons {cs : List Char} (h : IsWord cs) :
    ∃ c rest, cs = c :: rest ∧ c.isAlpha = true := by
  cases cs with
  | nil => exact absurd rfl h.ne_nil
  | cons c rest => exact ⟨c, rest, rfl, h.letters c List.mem_cons_self⟩

theorem ne_of_isAlpha {c d : Char} (h : c.isAlpha = true) (hd : d.isAlpha = false) : c ≠ d := by
  intro heq
  rw [heq, hd] at h
  cases h

theorem isAlpha_code {c : Char} (h : c.isAlpha = true) :
    0x41 ≤ c.toNat ∧ c.toNat ≤ 0x5A ∨ 0x61 ≤ c.toNat ∧ c.toNat ≤ 0x7A := by
  have hranges : (decide ('A'.val ≤ c.val ∧ c.val ≤ 'Z'.val) ||
      (decide ('a'.val ≤ c.val) && decide (c.val ≤ 'z'.val))) = true := h
  simp only [Bool.or_eq_true, Bool.and_eq_true, decide_eq_true_eq, UInt32.le_iff_toNat_le]
    at hranges
  exact hranges

theorem isDigit_of_isAlpha {c : Char} (h : c.isAlpha = true) : c.isDigit = false := by
  have hcode := isAlpha_code h
  by_contra hdigit
  simp only [Bool.not_eq_false, Char.isDigit, Bool.and_eq_true, decide_eq_true_eq, ge_iff_le,
    UInt32.le_iff_toNat_le] at hdigit
  have hle : c.toNat ≤ 0x39 := hdigit.2
  omega

/-! ## Cursors -/

namespace Cursor

variable {c : Cursor}

/-- Where a token starts, or the text ends: not at a blank, a break, a comment or a byte order
    mark. -/
structure Settled (c : Cursor) : Prop where
  blank : isBlank c.here = false
  lineBreak : isBreak c.here = false
  comment : c.here ≠ '#'
  byteOrder : c.here ≠ byteOrderMark

theorem here_of_cons {d : Char} {rest : List Char} (h : c.rest = d :: rest) : c.here = d := by
  rw [here, peek, h]
  rfl

theorem here_of_nil (h : c.rest = []) : c.here = '\x00' := by
  rw [here, peek, h]
  rfl

theorem here_isAlpha (h : IsWord c.rest) : c.here.isAlpha = true := by
  cases hrest : c.rest with
  | nil => exact absurd hrest h.ne_nil
  | cons d rest =>
      rw [here_of_cons hrest]
      exact h.letters d (by rw [hrest]; exact List.mem_cons_self)

theorem settled_of_nil (h : c.rest = []) : c.Settled := by
  have hhere := here_of_nil h
  exact ⟨by rw [hhere]; rfl, by rw [hhere]; rfl, by rw [hhere]; decide, by rw [hhere]; decide⟩

theorem settled_of_isAlpha (h : c.here.isAlpha = true) : c.Settled := by
  have hseparator := isSeparator_of_isAlpha h
  simp only [isSeparator, isLineEnd, Bool.or_eq_false_iff] at hseparator
  exact ⟨hseparator.1, hseparator.2.2, ne_of_isAlpha h rfl, ne_of_isAlpha h (by decide)⟩

theorem takeWhile_of_not {test : Char → Bool} (h : test c.here = false) :
    c.takeWhile test = ([], c) := by
  have hnone : c.rest.takeWhile test = [] := by
    cases hrest : c.rest with
    | nil => rfl
    | cons d rest =>
        rw [here_of_cons hrest] at h
        rw [List.takeWhile_cons, h]
        rfl
  rw [takeWhile, hnone]
  rfl

theorem dropWhile_of_not {test : Char → Bool} (h : test c.here = false) : c.dropWhile test = c := by
  rw [dropWhile, takeWhile_of_not h]

theorem lineBreak?_of_not (h : isBreak c.here = false) : c.lineBreak? = none := by
  have hne : ∀ d, isBreak d = true → c.here ≠ d := by
    intro d hd heq
    rw [heq, hd] at h
    cases h
  have hreturn := hne '\r' rfl
  have hline := hne '\u2028' rfl
  have hparagraph := hne '\u2029' rfl
  simp [lineBreak?, hreturn, hline, hparagraph, h]

theorem atMarker_of_ne (hdash : c.here ≠ '-') (hdot : c.here ≠ '.') : c.atMarker = false := by
  simp [atMarker, hdash, hdot]

end Cursor

/-! ## Plain scalars -/

namespace Token

variable {c : Cursor}

theorem readGap_of_settled (h : c.Settled) (start : Mark) (indent : Nat) :
    readGap start indent c = .ok ⟨[], c, false⟩ := by
  simp only [readGap, Cursor.takeWhile_of_not h.blank, Cursor.lineBreak?_of_not h.lineBreak]
  rfl

theorem plainWords_of_nil (start : Mark) (indent fuel : Nat) (h : c.rest = []) :
    plainWords start false indent fuel ⟨[], c, false⟩ = .ok ⟨[], c, false⟩ := by
  cases fuel with
  | zero => rfl
  | succ fuel =>
      have hhere := Cursor.here_of_nil h
      have hmarker : c.atMarker = false := by
        refine Cursor.atMarker_of_ne ?_ ?_
        · rw [hhere]
          decide
        · rw [hhere]
          decide
      simp [plainWords, hmarker, h, plainWord, isUnclear, hhere]
      rfl

/-- The letters up to the end of a text are one plain scalar. -/
theorem readPlain_letters (h : IsWord c.rest) (indent : Nat) :
    readPlain false indent c = .ok ⟨c.rest, c.skip c.rest.length, false⟩ := by
  have hhere := Cursor.here_isAlpha h
  have hmarker : c.atMarker = false :=
    Cursor.atMarker_of_ne (ne_of_isAlpha hhere rfl) (ne_of_isAlpha hhere rfl)
  have hword : plainWord false c.rest = c.rest := plainWord_letters false c.rest h.letters
  have hend : (c.skip c.rest.length).rest = [] := by rw [Cursor.rest_skip, List.drop_length]
  rw [readPlain, plainWords]
  simp only [hmarker, ne_of_isAlpha hhere (d := '#') rfl, hword, isUnclear, decide_false,
    Bool.false_or, Bool.false_and, Bool.not_false, Bool.and_false, if_false, Bool.false_eq_true,
    List.isEmpty_eq_false_iff.2 h.ne_nil]
  rw [readGap_of_settled (Cursor.settled_of_nil hend), ok_bind, plainWords_of_nil _ _ _ hend,
    ok_bind, List.nil_append, List.append_nil]
  rfl

namespace Lexer

variable {s : Lexer}

/-- Outside of all collections, and no key has to come. -/
structure Free (s : Lexer) : Prop where
  depth : s.depth = 0
  columns : s.columns = []
  optional : ∀ k ∈ s.candidates, k.required = false

theorem skipToToken_of_settled (h : s.cursor.Settled) : s.skipToToken = s := by
  have hbyteOrder : (s.cursor.column = 0 && s.cursor.here = Cursor.byteOrderMark) = false := by
    simp [h.byteOrder]
  have hspace : (s.cursor.here = ' ') = False := by
    have hblank := h.blank
    simp only [isBlank, Bool.or_eq_false_iff, decide_eq_false_iff_not] at hblank
    exact eq_false hblank.1
  have hskip : s.skipBlanks = s.cursor := by
    unfold skipBlanks
    split
    · exact Cursor.dropWhile_of_not (by simp [hspace])
    · exact Cursor.dropWhile_of_not h.blank
  have hcomment : s.cursor.dropComment = s.cursor := if_neg h.comment
  have hnone := Cursor.lineBreak?_of_not h.lineBreak
  rw [skipToToken, skipLines.eq_def]
  simp only [hbyteOrder, Bool.false_eq_true, if_false, hskip, hcomment, hnone]

namespace Free

variable (h : s.Free)

include h

theorem inBlock : s.inBlock = true := by rw [Lexer.inBlock, h.depth]; rfl

theorem indent : s.indent = -1 := by rw [Lexer.indent, h.columns]; rfl

theorem unwind (column : Int) : s.unwind column = s := by
  have hcolumns := h.columns
  obtain ⟨cursor, depth, columns, keyAllowed, candidates, tokens⟩ := s
  obtain rfl : columns = [] := hcolumns
  simp [Lexer.unwind]

/-- Candidates may be dropped, since none is required. -/
theorem dropWhere (test : Candidate → Bool) :
    ∃ candidates, s.dropWhere test = .ok { s with candidates := candidates } ∧
      Free { s with candidates := candidates } := by
  have hnone : s.candidates.find? (fun k => test k && k.required) = none := by
    refine List.find?_eq_none.2 fun k hk => ?_
    rw [h.optional k hk, Bool.and_false]
    exact Bool.false_ne_true
  refine ⟨s.candidates.filter fun k => !test k, ?_, h.depth, h.columns,
    fun k hk => h.optional k (List.mem_filter.1 hk).1⟩
  rw [Lexer.dropWhere, hnone]

/-- A new candidate is not required outside of all collections. -/
theorem noteCandidate :
    ∃ candidates, s.noteCandidate = .ok { s with candidates := candidates } ∧
      Free { s with candidates := candidates } := by
  unfold Lexer.noteCandidate
  split
  · have hrequired : (s.inBlock && s.indent = (s.cursor.column : Int)) = false := by
      rw [h.inBlock, h.indent, Bool.true_and, decide_eq_false_iff_not]
      omega
    obtain ⟨candidates, hdrop, hfree⟩ := h.dropWhere (·.depth = s.depth)
    refine ⟨⟨s.depth, s.tokens.length, false, s.cursor.mark⟩ :: candidates, ?_, h.depth, h.columns,
      ?_⟩
    · simp only [dropCandidate, hdrop, hrequired]
      rfl
    · intro k hk
      rcases List.mem_cons.1 hk with rfl | hk
      · rfl
      · exact hfree.optional k hk
  · exact ⟨s.candidates, rfl, h⟩

end Free

/-! ### Steps -/

/-- The rest of the text has been read as one token. -/
def ReadsAs (s : Lexer) (t : Token) (r : Except Error Lexer) : Prop :=
  ∃ next start stop, r = .ok next ∧ next.Free ∧ next.cursor.rest = [] ∧
    next.tokens = s.tokens ++ [⟨t, start, stop⟩]

/-- A step reads what the token at the cursor reads, with whatever candidates. -/
theorem readsAs_step {t : Token} (h : s.Free) (hsettled : s.cursor.Settled)
    (hread : ∀ candidates, Free { s with candidates := candidates } →
      ReadsAs s t (readToken { s with candidates := candidates })) : ReadsAs s t s.step := by
  obtain ⟨candidates, hbefore, hfree⟩ := h.dropWhere (isStale s.cursor)
  obtain ⟨next, start, stop, hnext, hnextFree, hrest, htokens⟩ := hread candidates hfree
  obtain ⟨candidates', hafter, hafterFree⟩ := hnextFree.dropWhere (isStale next.cursor)
  refine ⟨_, start, stop, ?_, hafterFree, hrest, htokens⟩
  rw [step, skipToToken_of_settled hsettled, dropStale, hbefore, ok_bind, hfree.unwind, hnext,
    ok_bind]
  exact hafter

theorem readToken_of_isAlpha (hword : IsWord s.cursor.rest) : s.readToken = s.atPlain := by
  have hhere := Cursor.here_isAlpha hword
  have hne (d : Char) (hd : d.isAlpha = false) : s.cursor.here ≠ d := ne_of_isAlpha hhere hd
  have hmarker : s.cursor.atMarker = false := Cursor.atMarker_of_ne (hne _ rfl) (hne _ rfl)
  have hstarts : s.startsPlain = true := by
    simp [startsPlain, isIndicator, isSeparator_of_isAlpha hhere, hne]
  simp [readToken, hword.ne_nil, hmarker, hstarts, hne]

theorem readsAs_atPlain (h : s.Free) (hword : IsWord s.cursor.rest) :
    ReadsAs s (.scalar (String.ofList s.cursor.rest) true) s.atPlain := by
  obtain ⟨candidates, hnote, hfree⟩ := h.noteCandidate
  have hplain := readPlain_letters hword (s.indent + 1).toNat
  have hend : (s.cursor.skip s.cursor.rest.length).rest = [] := by
    rw [Cursor.rest_skip, List.drop_length]
  have hatPlain : s.atPlain = .ok (push
      { s with
        candidates := candidates
        cursor := s.cursor.skip s.cursor.rest.length
        keyAllowed := false }
      s.cursor.mark (.scalar (String.ofList s.cursor.rest) true)) := by
    have hflow : (!inBlock { s with candidates := candidates }) = false := by
      rw [hfree.inBlock]
      rfl
    rw [atPlain, hnote, ok_bind, hflow]
    show (readPlain false (s.indent + 1).toNat s.cursor >>= _) = _
    rw [hplain]
    rfl
  exact ⟨_, _, _, hatPlain, ⟨hfree.depth, hfree.columns, hfree.optional⟩, hend, rfl⟩

theorem readsAs_atEnd (h : s.Free) (hrest : s.cursor.rest = []) :
    ReadsAs s .streamEnd s.atEnd := by
  obtain ⟨c, hc, hsame⟩ : ∃ c : Cursor, c.rest = [] ∧ c =
      if s.cursor.column = 0 then s.cursor
      else { s.cursor with line := s.cursor.line + 1, column := 0 } := by
    refine ⟨_, ?_, rfl⟩
    split
    · exact hrest
    · exact hrest
  have hmoved : Free { s with cursor := c } := ⟨h.depth, h.columns, h.optional⟩
  obtain ⟨candidates, hdrop, hfree⟩ := hmoved.dropWhere (·.depth = s.depth)
  have hatEnd : s.atEnd = .ok (push
      { s with candidates := candidates, cursor := c, keyAllowed := false } c.mark .streamEnd) := by
    rw [atEnd, ← hsame, hmoved.unwind]
    show (dropWhere { s with cursor := c } (·.depth = s.depth) >>= _) = _
    rw [hdrop]
    rfl
  exact ⟨_, _, _, hatEnd, ⟨hfree.depth, hfree.columns, hfree.optional⟩, hc, rfl⟩

/-- A word up to the end of the text is one token. -/
theorem step_word (h : s.Free) (hword : IsWord s.cursor.rest) :
    ReadsAs s (.scalar (String.ofList s.cursor.rest) true) s.step := by
  refine readsAs_step h (Cursor.settled_of_isAlpha (Cursor.here_isAlpha hword)) ?_
  intro candidates hfree
  have hread := readToken_of_isAlpha (s := { s with candidates := candidates }) hword
  rw [hread]
  exact readsAs_atPlain hfree hword

/-- At the end of the text the stream ends. -/
theorem step_end (h : s.Free) (hrest : s.cursor.rest = []) : ReadsAs s .streamEnd s.step := by
  refine readsAs_step h (Cursor.settled_of_nil hrest) ?_
  intro candidates hfree
  have hread : readToken { s with candidates := candidates } =
      atEnd { s with candidates := candidates } := by
    rw [readToken]
    simp only [hrest, List.isEmpty_nil, if_true]
  rw [hread]
  exact readsAs_atEnd hfree hrest

end Lexer

/-- A word is a stream of one token. -/
theorem ofText_letters {cs : List Char} (h : IsWord cs) :
    ∃ start stop start' stop', ofText cs =
      [⟨.scalar (String.ofList cs) true, start, stop⟩, ⟨.streamEnd, start', stop'⟩] := by
  have hstart : Cursor.start cs = ⟨cs, 0, 0, 0⟩ := by
    cases cs with
    | nil => rfl
    | cons c cs =>
        have hne : c ≠ Cursor.byteOrderMark :=
          ne_of_isAlpha (h.letters c List.mem_cons_self) (by decide)
        rw [Cursor.start, if_neg hne]
  have hfree : (Lexer.start cs).Free := ⟨rfl, rfl, fun k hk => absurd hk List.not_mem_nil⟩
  have hrest : (Lexer.start cs).cursor.rest = cs := by rw [Lexer.start, hstart]
  obtain ⟨s, start, stop, hstep, hsFree, hsRest, hsTokens⟩ :=
    Lexer.step_word hfree (by rwa [hrest])
  obtain ⟨s', start', stop', hstep', -, -, hsTokens'⟩ := Lexer.step_end hsFree hsRest
  obtain ⟨fuel, hfuel⟩ : ∃ fuel, cs.length = fuel + 1 :=
    ⟨cs.length - 1, by have := List.length_pos_iff.2 h.ne_nil; omega⟩
  have htokens : s.tokens = [⟨.scalar (String.ofList cs) true, start, stop⟩] := by
    rw [hsTokens, hrest]
    rfl
  have hlast : s.tokens.getLast?.map (·.token) ≠ some .streamEnd := by
    rw [htokens]
    exact fun heq => Token.noConfusion (Option.some.inj heq)
  have hlast' : s'.tokens.getLast?.map (·.token) = some .streamEnd := by
    rw [hsTokens', List.getLast?_concat]
    rfl
  refine ⟨start, stop, start', stop', ?_⟩
  rw [ofText, hfuel, Lexer.run_of_step hstep, if_neg hlast, Lexer.run_of_step hstep', if_pos hlast',
    hsTokens', htokens]
  rfl

end Token

/-! ## Values -/

namespace Scalar

/-- The spellings of true. -/
def yesWords : List String := ["yes", "Yes", "YES", "true", "True", "TRUE", "on", "On", "ON"]

/-- The spellings of false. -/
def noWords : List String := ["no", "No", "NO", "false", "False", "FALSE", "off", "Off", "OFF"]

theorem truths_eq : truths = yesWords ++ noWords := rfl

variable {cs : List Char}

theorem unsigned_word (h : IsWord cs) : unsigned cs = cs := by
  obtain ⟨c, rest, rfl, hc⟩ := h.exists_cons
  unfold unsigned
  split
  · next heq => exact absurd (List.cons.inj heq).1 (ne_of_isAlpha hc rfl)
  · next heq => exact absurd (List.cons.inj heq).1 (ne_of_isAlpha hc rfl)
  · rfl

theorem leadingDigits?_word (h : IsWord cs) : leadingDigits? cs = none := by
  obtain ⟨c, rest, rfl, hc⟩ := h.exists_cons
  simp [leadingDigits?, isDigit_of_isAlpha hc]

/-- Texts that do not start with a letter are no words. -/
theorem not_contains_word {w : String} (h : IsWord w.toList) {texts : List String}
    (htexts : ∀ t ∈ texts, t.toList.head?.map Char.isAlpha = some false) :
    texts.contains w = false := by
  obtain ⟨c, rest, hw, hc⟩ := h.exists_cons
  rw [Bool.eq_false_iff]
  intro hcontains
  have hhead := htexts w (List.contains_iff_mem.1 hcontains)
  rw [hw, List.head?_cons, Option.map_some, hc] at hhead
  cases hhead

theorem isFloat_word (h : IsWord cs) : isFloat cs = false := by
  have htext : IsWord (String.ofList cs).toList := by rwa [String.toList_ofList]
  have hpositional : isPositional cs = false := by simp [isPositional, leadingDigits?_word h]
  have hinf : [".inf", ".Inf", ".INF"].contains (String.ofList cs) = false :=
    not_contains_word htext (by decide)
  have hnan : [".nan", ".NaN", ".NAN"].contains (String.ofList cs) = false :=
    not_contains_word htext (by decide)
  unfold isFloat
  rw [unsigned_word h, hpositional, hinf, hnan]
  obtain ⟨c, rest, rfl, hc⟩ := h.exists_cons
  split
  · next heq => exact absurd (List.cons.inj heq).1 (ne_of_isAlpha hc rfl)
  · rfl

theorem isInteger_word (h : IsWord cs) : isInteger cs = false := by
  have hdigits := leadingDigits?_word h
  obtain ⟨c, rest, rfl, hc⟩ := h.exists_cons
  have hzero : c ≠ '0' := ne_of_isAlpha hc rfl
  rw [isInteger, unsigned_word h]
  split
  · next heq => exact absurd (List.cons.inj heq).1 hzero
  · next heq => exact absurd (List.cons.inj heq).1 hzero
  · next heq => exact absurd (List.cons.inj heq).1 hzero
  · next heq => exact absurd (List.cons.inj heq).1 hzero
  · rw [hdigits]

/-- A word is null, a truth value or text. -/
theorem resolve_word {w : String} (h : IsWord w.toList) :
    resolve w = if nulls.contains w then .null else if truths.contains w then .bool else .text := by
  have hlast : w.toList.getLast? ≠ some '\n' := by
    intro hlast
    exact absurd (h.letters _ (List.mem_of_getLast? hlast)) (by decide)
  have hempty : w ≠ "" := by
    rintro rfl
    exact h.ne_nil rfl
  have hreserved : reserved.contains w = false := not_contains_word h (by decide)
  have hmarks : ["<<", "="].contains w = false := not_contains_word h (by decide)
  have hmerge : w ≠ "<<" := by
    rintro rfl
    cases hmarks
  have hdefault : w ≠ "=" := by
    rintro rfl
    cases hmarks
  simp only [resolve, resolveLine, if_neg hlast, hempty, hreserved, isFloat_word h,
    isInteger_word h, hmerge, hdefault, decide_false, Bool.false_and, Bool.false_or,
    Bool.false_eq_true, if_false]

end Scalar

/-- The atom that a word stands for. -/
def Atom.ofWord (w : String) : Atom :=
  if Scalar.nulls.contains w then .null
  else if Scalar.yesWords.contains w then .bool true
  else if Scalar.noWords.contains w then .bool false
  else .text w

namespace Value

theorem characterFault?_word {cs : List Char} (h : IsWord cs) : characterFault? cs = none := by
  have hgood : ∀ c ∈ cs, isDocumentChar c = true := by
    intro c hc
    have hcode := isAlpha_code (h.letters c hc)
    refine List.any_eq_true.2 ⟨(0x20, 0x7E), by decide, ?_⟩
    rw [Bool.and_eq_true, decide_eq_true_iff, decide_eq_true_iff]
    omega
  rw [characterFault?, List.takeWhile_eq_self_iff.2 hgood,
    List.getElem?_eq_none (Nat.le_refl _)]
  rfl

theorem readAtom_word {w : String} (h : IsWord w.toList) (start : Mark) :
    readAtom start (Scalar.resolve w) w = .ok (Atom.ofWord w) := by
  have hyes : ∀ w ∈ Scalar.yesWords, readTruth w = .ok true := by decide +kernel
  have hno : ∀ w ∈ Scalar.noWords, readTruth w = .ok false := by decide +kernel
  rw [Scalar.resolve_word h, Atom.ofWord, Scalar.truths_eq]
  by_cases hnull : Scalar.nulls.contains w = true
  · rw [if_pos hnull, if_pos hnull]
    rfl
  rw [if_neg hnull, if_neg hnull]
  by_cases hmemYes : Scalar.yesWords.contains w = true
  · have hmem := List.contains_iff_mem.1 hmemYes
    rw [if_pos (List.contains_iff_mem.2 (List.mem_append_left _ hmem)), if_pos hmemYes, readAtom,
      hyes w hmem]
    rfl
  rw [if_neg hmemYes]
  by_cases hmemNo : Scalar.noWords.contains w = true
  · have hmem := List.contains_iff_mem.1 hmemNo
    rw [if_pos (List.contains_iff_mem.2 (List.mem_append_right _ hmem)), if_pos hmemNo, readAtom,
      hno w hmem]
    rfl
  · have hneither : ¬ (Scalar.yesWords ++ Scalar.noWords).contains w = true := by
      rw [List.contains_iff_mem] at *
      exact fun hmem => (List.mem_append.1 hmem).elim hmemYes hmemNo
    rw [if_neg hneither, if_neg hmemNo]
    rfl

/-- A word is a document that holds what the word stands for. -/
theorem ofText_word {w : String} (h : IsWord w.toList) :
    ofText w = .ok (.atom (Atom.ofWord w)) := by
  obtain ⟨start, stop, start', stop', htokens⟩ := Token.ofText_letters h
  have hnode : Node.ofTokens (Token.ofText w.toList) =
      .ok (some (.scalar start (Scalar.resolve w) w)) := by
    rw [htokens, String.ofList_toList]
    rfl
  have hclass : classOf (Scalar.resolve w) = .atom := by
    rw [Scalar.resolve_word h]
    split
    · rfl
    · split
      · rfl
      · rfl
  have hvalue : ofNode 0 (.scalar start (Scalar.resolve w) w) = .ok (.atom (Atom.ofWord w)) := by
    rw [ofNode, ofScalar, hclass]
    simp only [readAtom_word h]
    rfl
  rw [ofText]
  simp only [characterFault?_word h, hnode, ok_bind]
  rw [hvalue]
  rfl

end Value

end Yaml

end Chip8
