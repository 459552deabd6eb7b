import Chip8.Settings

set_option autoImplicit false

/-! # What loading settings fails with

A text that denotes no term is refused by the grammar, or else because its first word closes what
has not been opened. The second is a fault of its own kind, and texts in settings do not have it:
only an argument on its own can start with such a word. So all faults with which loading fails are
ordinary (`Settings.ordinary_load`), whatever files and overrides hold. -/

namespace Chip8

variable {ε α β : Type}

/-! ## Failing with some faults only -/

/-- A computation fails, if at all, with a fault that has a property. -/
def FailsOnly (P : ε → Prop) (r : Except ε α) : Prop := ∀ e, r = .error e → P e

namespace FailsOnly

variable {P : ε → Prop}

theorem ok (x : α) : FailsOnly P (Except.ok x) := by
  intro e h
  cases h

theorem error {e : ε} (h : P e) : FailsOnly P (Except.error e : Except ε α) := by
  intro e' he
  cases he
  exact h

theorem bind {r : Except ε α} {f : α → Except ε β} (hr : FailsOnly P r)
    (hf : ∀ x, FailsOnly P (f x)) : FailsOnly P (r >>= f) := by
  cases r with
  | ok x => exact hf x
  | error e => exact error (hr e rfl)

theorem map {r : Except ε α} (hr : FailsOnly P r) (f : α → β) : FailsOnly P (r.map f) := by
  cases r with
  | ok x => exact ok (f x)
  | error e => exact error (hr e rfl)

theorem mapError {δ : Type} {Q : δ → Prop} {r : Except ε α} {f : ε → δ}
    (hr : ∀ e, r = .error e → Q (f e)) : FailsOnly Q (r.mapError f) := by
  cases r with
  | ok x => exact ok x
  | error e => exact error (hr e rfl)

theorem ite {c : Prop} [Decidable c] {r r' : Except ε α} (hr : FailsOnly P r)
    (hr' : FailsOnly P r') : FailsOnly P (if c then r else r') := by
  split
  · exact hr
  · exact hr'

theorem foldlM {f : β → α → Except ε β} (hf : ∀ y x, FailsOnly P (f y x)) (xs : List α) (y : β) :
    FailsOnly P (xs.foldlM f y) := by
  induction xs generalizing y with
  | nil => exact ok y
  | cons x xs ih => exact bind (hf y x) ih

end FailsOnly

/-! ## Reading terms -/

namespace Settings

namespace Interpolation

namespace Reader

/-- A reader that fails, whatever it reads, for reasons of the grammar. -/
def Grammatical (r : Reader α) : Prop :=
  ∀ words, FailsOnly (·.kind = "GrammarParseError") (r words)

namespace Grammatical

variable {r r' : Reader α} {f : α → Reader β}

theorem pure (x : α) : Grammatical (Pure.pure x) := fun _ => .ok _

theorem throw {cause : GrammarError} (h : cause.kind = "GrammarParseError" := by rfl) :
    Grammatical (MonadExcept.throw cause : Reader α) := fun _ => .error h

theorem get : Grammatical (MonadState.get : Reader (List Token)) := fun _ => .ok _

theorem bind (hr : Grammatical r) (hf : ∀ x, Grammatical (f x)) : Grammatical (r >>= f) := by
  intro words
  refine (hr words).bind ?_
  rintro ⟨x, rest⟩
  exact hf x rest

theorem ite {c : Prop} [Decidable c] (hr : Grammatical r) (hr' : Grammatical r') :
    Grammatical (if c then r else r') := by
  split
  · exact hr
  · exact hr'

/-- Two ways lead to the same rest. -/
theorem iteBind {c : Prop} [Decidable c] (hr : Grammatical r) (hr' : Grammatical r')
    (hf : ∀ x, Grammatical (f x)) : Grammatical (if c then r >>= f else r' >>= f) :=
  .ite (hr.bind hf) (hr'.bind hf)

end Grammatical

theorem grammatical_drop : Grammatical drop := fun _ => .ok _

theorem kind_of_fault? {t : Token} {cause : GrammarError} (h : fault? t = some cause) :
    cause.kind = "GrammarParseError" := by
  unfold fault? at h
  split at h
  · cases h
    rfl
  · cases h
    rfl
  · cases h

theorem grammatical_front (words : List Token) : Grammatical (front words) := by
  unfold front
  split
  · exact .pure _
  · split
    next cause h => exact .throw (kind_of_fault? h)
    next => exact .pure _

theorem grammatical_peek : Grammatical peek := .bind .get fun _ => grammatical_front _

theorem grammatical_peekBehind : Grammatical peekBehind := .bind .get fun _ => grammatical_front _

theorem grammatical_found : Grammatical found := .bind grammatical_peek fun _ => .pure _

theorem grammatical_atKind (kinds : List TokenKind) : Grammatical (atKind kinds) :=
  .bind grammatical_peek fun _ => .pure _

theorem grammatical_readSince (start : List Token) : Grammatical (readSince start) :=
  .bind .get fun _ => .pure _

theorem grammatical_failSince (start : List Token) : Grammatical (failSince start : Reader α) := by
  refine .bind grammatical_peek fun next => .bind .get fun words => ?_
  cases h : words.findSome? fault? with
  | some cause =>
    obtain ⟨t, -, ht⟩ := List.exists_of_findSome?_eq_some h
    exact .throw (kind_of_fault? ht)
  | none => exact .bind (grammatical_readSince start) fun _ => .throw

theorem grammatical_failHere : Grammatical (failHere : Reader α) :=
  .bind grammatical_found fun _ => .throw

theorem grammatical_check (undecided : Option (List Token)) (kinds : List TokenKind) :
    Grammatical (check undecided kinds) := by
  refine .bind (grammatical_atKind kinds) fun _ => .ite (.pure _) ?_
  have hwrong : Grammatical (do
      let here ← found
      if kinds.contains (← peekBehind).kind then throw (.extraneous here (listed kinds))
      else throw (.mismatched here (listed kinds)) : Reader Unit) :=
    .bind grammatical_found fun _ => .bind grammatical_peekBehind fun _ => .ite .throw .throw
  cases undecided with
  | some start => exact .bind (grammatical_failSince start) fun _ => hwrong
  | none => exact hwrong

theorem grammatical_checkAgain (undecided : Option (List Token)) (kinds : List TokenKind) :
    Grammatical (checkAgain undecided kinds) := by
  refine .bind (grammatical_atKind kinds) fun _ => .ite (.pure _) ?_
  have hwrong : Grammatical (do throw (.extraneous (← found) (listed kinds)) : Reader Unit) :=
    .bind grammatical_found fun _ => .throw
  cases undecided with
  | some start => exact .bind (grammatical_failSince start) fun _ => hwrong
  | none => exact hwrong

theorem grammatical_expect (undecided : Option (List Token)) (kind : TokenKind)
    (after : List TokenKind) : Grammatical (expect undecided kind after) := by
  refine .bind (grammatical_atKind [kind]) fun _ => .ite grammatical_drop ?_
  have hwrong : Grammatical (do
      let here ← found
      if (← peekBehind).kind = kind then throw (.extraneous here (listed [kind]))
      else if ← atKind after then throw (.missing (listed [kind]) here)
      else throw (.mismatched here (listed [kind])) : Reader Unit) :=
    .bind grammatical_found fun _ => .bind grammatical_peekBehind fun _ => .ite .throw
      (.bind (grammatical_atKind after) fun _ => .ite .throw .throw)
  cases undecided with
  | some start => exact .bind (grammatical_failSince start) fun _ => hwrong
  | none => exact hwrong

theorem grammatical_takeWords (kinds : List TokenKind) (fuel : Nat) :
    Grammatical (takeWords kinds fuel) := by
  induction fuel with
  | zero => exact .pure _
  | succ fuel ih =>
      exact .bind grammatical_peek fun t =>
        .ite (.bind grammatical_drop fun _ => .bind ih fun _ => .pure _) (.pure _)

theorem grammatical_takeDots (undecided : Option (List Token)) (again : Bool) (fuel : Nat) :
    Grammatical (takeDots undecided again fuel) := by
  induction fuel generalizing again with
  | zero => exact .pure _
  | succ fuel ih =>
      have hrest : Grammatical (do
          if ← atKind [.dot] then
            drop
            return .text "." :: (← takeDots undecided true fuel)
          else return [] : Reader (List Term)) :=
        .bind (grammatical_atKind _) fun _ =>
          .ite (.bind grammatical_drop fun _ => .bind (ih true) fun _ => .pure _) (.pure _)
      unfold takeDots
      exact .ite (.bind (grammatical_checkAgain _ _) fun _ => hrest)
        (.bind (grammatical_check _ _) fun _ => hrest)

/-- The readers of the grammar fail for reasons of the grammar, with a given amount of fuel. -/
structure GrammaticalAt (fuel : Nat) : Prop where
  parts : ∀ undecided kinds after, Grammatical (parts undecided kinds after fuel)
  interpolation : ∀ undecided after, Grammatical (interpolation undecided after fuel)
  referenceOrCall : ∀ undecided start after before,
    Grammatical (referenceOrCall undecided start after before fuel)
  firstPart : ∀ undecided, Grammatical (firstPart undecided fuel)
  path : ∀ undecided again, Grammatical (path undecided again fuel)
  keyPart : ∀ undecided after, Grammatical (keyPart undecided after fuel)
  items : ∀ undecided after, Grammatical (items undecided after fuel)
  element : ∀ undecided after, Grammatical (element undecided after fuel)
  entries : ∀ undecided again, Grammatical (entries undecided again fuel)

theorem grammaticalAt_zero : GrammaticalAt 0 where
  parts _ _ _ := .pure _
  interpolation _ _ := grammatical_failHere
  referenceOrCall _ _ _ _ := grammatical_failHere
  firstPart _ := grammatical_failHere
  path _ _ := grammatical_failHere
  keyPart _ _ := grammatical_failHere
  items _ _ := grammatical_failHere
  element _ _ := grammatical_failHere
  entries _ _ := grammatical_failHere

theorem grammaticalAt_succ {fuel : Nat} (ih : GrammaticalAt fuel) : GrammaticalAt (fuel + 1) where
  parts undecided kinds after := by
    unfold Reader.parts
    refine .bind grammatical_peek fun t => .ite ?_ (.ite ?_ (.pure _))
    · exact .bind (ih.interpolation _ _) fun _ => .bind (ih.parts _ _ _) fun _ => .pure _
    · exact .bind grammatical_drop fun _ => .bind (ih.parts _ _ _) fun _ => .pure _
  interpolation undecided after := by
    unfold Reader.interpolation
    refine .bind .get fun _ => .bind grammatical_drop fun _ => .bind (grammatical_atKind _) fun _ =>
      .ite ?_ (ih.referenceOrCall _ _ _ _)
    exact .bind .get fun _ => .bind (grammatical_takeDots _ _ _) fun _ =>
      .bind (ih.firstPart _) fun _ => .bind (ih.path _ _) fun _ => .pure _
  referenceOrCall undecided start after before := by
    unfold Reader.referenceOrCall
    refine .bind (grammatical_atKind _) fun _ => .ite ?key (.bind (grammatical_atKind _) fun _ =>
      .iteBind (ih.keyPart _ _) (grammatical_failSince _) fun _ => ?_)
    case key =>
      exact .bind (ih.keyPart _ _) fun _ => .bind (ih.path _ _) fun _ => .pure _
    refine .bind (grammatical_atKind _) fun _ => .ite ?reference
      (.bind (grammatical_atKind _) fun _ => .ite ?dot
        (.bind (grammatical_atKind _) fun _ => .ite ?call (grammatical_failSince _)))
    case reference => exact .bind (ih.path _ _) fun _ => .pure _
    case dot => exact .bind grammatical_drop fun _ => ih.referenceOrCall _ _ _ _
    case call =>
      exact .bind grammatical_drop fun _ => .bind (grammatical_check _ _) fun _ =>
        .bind (grammatical_atKind _) fun _ => .iteBind (.pure _) (ih.items _ _) fun _ =>
          .bind (grammatical_expect _ _ _) fun _ => .pure _
  firstPart undecided := by
    unfold Reader.firstPart
    refine .bind (grammatical_atKind _) fun _ => .ite ?_ (ih.keyPart _ _)
    exact .bind grammatical_drop fun _ => .bind (ih.keyPart _ _) fun _ =>
      .bind (grammatical_expect _ _ _) fun _ => .pure _
  path undecided again := by
    unfold Reader.path
    have hrest : Grammatical (do
        if ← atKind [.dot] then
          drop
          let key ← Reader.keyPart undecided pathKinds fuel
          return .text "." :: key ++ (← Reader.path undecided true fuel)
        else if ← atKind [.bracketOpen] then
          let key ← Reader.firstPart undecided fuel
          return key ++ (← Reader.path undecided true fuel)
        else
          drop
          return [] : Reader (List Term)) := by
      refine .bind (grammatical_atKind _) fun _ => .ite ?dot
        (.bind (grammatical_atKind _) fun _ => .ite ?bracket ?close)
      case dot =>
        exact .bind grammatical_drop fun _ => .bind (ih.keyPart _ _) fun _ =>
          .bind (ih.path _ _) fun _ => .pure _
      case bracket => exact .bind (ih.firstPart _) fun _ => .bind (ih.path _ _) fun _ => .pure _
      case close => exact .bind grammatical_drop fun _ => .pure _
    exact .ite (.bind (grammatical_checkAgain _ _) fun _ => hrest)
      (.bind (grammatical_check _ _) fun _ => hrest)
  keyPart undecided after := by
    unfold Reader.keyPart
    refine .bind (grammatical_check _ _) fun _ => .bind grammatical_found fun _ =>
      .bind (grammatical_atKind _) fun _ => .ite ?_ (.bind grammatical_drop fun _ => .pure _)
    exact .bind .get fun _ => .bind (ih.interpolation _ _) fun _ =>
      .bind (grammatical_readSince _) fun _ => .pure _
  items undecided after := by
    unfold Reader.items
    refine .bind (grammatical_atKind _) fun _ => .iteBind (ih.element _ _) (.pure _) fun _ =>
      .bind (grammatical_atKind _) fun _ => .ite ?_ (.pure _)
    exact .bind grammatical_drop fun _ => .bind (ih.items _ _) fun _ => .pure _
  element undecided after := by
    unfold Reader.element
    refine .bind (grammatical_check _ _) fun _ => .bind (grammatical_atKind _) fun _ => .ite ?quoted
      (.bind (grammatical_atKind _) fun _ => .ite ?list
        (.bind (grammatical_atKind _) fun _ => .ite ?map
          (.bind (ih.parts _ _ _) fun _ => .pure _)))
    case quoted =>
      exact .bind grammatical_drop fun _ => .bind (grammatical_check _ _) fun _ =>
        .bind (ih.parts _ _ _) fun _ => .bind (grammatical_expect _ _ _) fun _ => .pure _
    case list =>
      exact .bind grammatical_drop fun _ => .bind (grammatical_check _ _) fun _ =>
        .bind (grammatical_atKind _) fun _ => .iteBind (.pure _) (ih.items _ _) fun _ =>
          .bind (grammatical_expect _ _ _) fun _ => .pure _
    case map =>
      exact .bind grammatical_drop fun _ => .bind (grammatical_check _ _) fun _ =>
        .bind (grammatical_atKind _) fun _ => .iteBind (.pure _) (ih.entries _ _) fun _ =>
          .bind grammatical_drop fun _ => .pure _
  entries undecided again := by
    unfold Reader.entries
    have hmore : ∀ entry, Grammatical (do
        if ← atKind [.comma] then
          drop
          return entry :: (← Reader.entries undecided true fuel)
        else return [entry] : Reader (List (Yaml.Atom × Term))) := fun entry =>
      .bind (grammatical_atKind _) fun _ =>
        .ite (.bind grammatical_drop fun _ => .bind (ih.entries _ _) fun _ => .pure _) (.pure _)
    exact .bind (grammatical_check _ _) fun _ => .bind .get fun _ =>
      .bind (grammatical_takeWords _ _) fun _ => .bind (grammatical_expect _ _ _) fun _ =>
        .bind (ih.element _ _) fun _ =>
          .iteBind (grammatical_checkAgain _ _) (grammatical_check _ _) fun _ => hmore _

/-- The readers call each other, each time with less fuel. -/
theorem grammaticalAt (fuel : Nat) : GrammaticalAt fuel := by
  induction fuel with
  | zero => exact grammaticalAt_zero
  | succ fuel ih => exact grammaticalAt_succ ih

end Reader

/-- Reading a text as a term fails for reasons of the grammar. -/
theorem Term.failsOnly_ofText (text : String) :
    FailsOnly (·.kind = "GrammarParseError") (Term.ofText text) :=
  .bind ((Reader.grammaticalAt _).parts _ _ _ _) fun _ =>
    .bind (Reader.grammatical_expect _ _ _ _) fun _ => .ok _

end Interpolation

/-! ## Reading and combining settings -/

open Yaml (Atom Value)

/-- A fault that is of the kind which faults of its sort are of. The exception would be a text that
    denotes no term for another reason than the grammar. -/
def SettingsError.IsOrdinary : SettingsError → Prop
  | grammar cause => cause.kind = "GrammarParseError"
  | _ => True

/-- A step of loading that fails with ordinary faults only. -/
abbrev Ordinary (r : Except SettingsError α) : Prop := FailsOnly SettingsError.IsOrdinary r

namespace Content

theorem ordinary_refuse (cause : Cause) (key : String) (owner : Owner) (shown : Shown) :
    Ordinary (refuse cause key owner shown : Except SettingsError α) := .error trivial

namespace Position

theorem ordinary_checkPart (s : Position) (v : Value) : Ordinary (s.checkPart v) := by
  unfold checkPart
  split
  · exact .ite (ordinary_refuse _ _ _ _) (.ok _)
  · exact .ok _

theorem ordinary_checkKey (trail : Trail) (others : List Atom) (key : Atom) :
    Ordinary (checkKey trail others key) := by
  unfold checkKey
  refine .ite (ordinary_refuse _ _ _ _) ?_
  cases conflict? others key with
  | some other => exact ordinary_refuse _ _ _ _
  | none => exact .ok _

end Position

theorem ordinary_acceptAtom (s : Position) (a : Atom) : Ordinary (acceptAtom s a) := by
  unfold acceptAtom
  split
  · exact ordinary_refuse _ _ _ _
  · refine .ite ?_ (.ok _)
    split
    · exact .ok _
    · exact ordinary_refuse _ _ _ _
  · exact .ok _

mutual

theorem ordinary_accept (s : Position) (v : Value) : Ordinary (accept s v) := by
  cases v with
  | atom a => exact ordinary_acceptAtom s a
  | list items => exact .map (ordinary_acceptItems s.steps 0 items) list
  | pair a b =>
      unfold accept
      -- both parts are checked in the same way before they are accepted
      exact .bind (Position.ordinary_checkPart _ _) fun _ => .bind (ordinary_accept _ a) fun _ =>
        .bind (Position.ordinary_checkPart _ _) fun _ => .bind (ordinary_accept _ b) fun _ => .ok _
  | map entries => exact .map (ordinary_acceptEntries s.steps [] entries) map
  | set _ => exact ordinary_refuse _ _ _ _

theorem ordinary_acceptItems (trail : Trail) (index : Nat) (items : List Value) :
    Ordinary (acceptItems trail index items) := by
  cases items with
  | nil => exact .ok _
  | cons v rest =>
      exact .bind (ordinary_accept _ v) fun _ =>
        .bind (ordinary_acceptItems _ _ rest) fun _ => .ok _

theorem ordinary_acceptEntries (trail : Trail) (before : List Atom)
    (entries : List (Atom × Value)) : Ordinary (acceptEntries trail before entries) := by
  cases entries with
  | nil => exact .ok _
  | cons e rest =>
      obtain ⟨k, v⟩ := e
      exact .bind (Position.ordinary_checkKey _ _ _) fun _ => .bind (ordinary_accept _ v) fun _ =>
        .bind (ordinary_acceptEntries _ _ rest) fun _ => .ok _

end

mutual

theorem ordinary_combine {s : Combining} (hmixed : s.mixed.IsOrdinary) (place : List Key)
    (old c : Content) : Ordinary (combine s place old c) := by
  cases c with
  | map more =>
      unfold combine
      split
      · exact .map (ordinary_combineAll hmixed _ _ more) _
      · exact .error hmixed
      · exact .error hmixed
      · exact .ok _
  | list items =>
      unfold combine
      split
      · exact .error hmixed
      · exact .ok _
      · exact .ok _
  | _ => exact .ok _

theorem ordinary_combineAll {s : Combining} (hmixed : s.mixed.IsOrdinary) (place : List Key)
    (entries more : List (Atom × Content)) : Ordinary (combineAll s place entries more) := by
  cases more with
  | nil => exact .ok _
  | cons e rest =>
      obtain ⟨k, c⟩ := e
      unfold combineAll
      cases Value.lookup entries k with
      | some old =>
          exact .bind (ordinary_combine hmixed _ _ c) fun _ => ordinary_combineAll hmixed _ _ rest
      | none =>
          exact .bind (Position.ordinary_checkKey _ _ _) fun _ =>
            ordinary_combineAll hmixed _ _ rest

end

theorem ordinary_combined (root : Content) (s : Position) (place : List Key) (old new : Content)
    (container : Container) : Ordinary (root.combined s place old new container) :=
  ordinary_combine (by trivial) _ _ _

theorem ordinary_put (root : Content) (s : Position) (place : List Key) (v : Value) :
    Ordinary (root.put s place v) := by
  unfold put
  dsimp only
  split
  · exact .bind (ordinary_acceptItems _ _ _) fun _ => ordinary_combined _ _ _ _ _ _
  · exact .bind (ordinary_acceptEntries _ _ _) fun _ => ordinary_combined _ _ _ _ _ _
  · exact .ite (ordinary_accept _ _) (ordinary_refuse _ _ _ _)
  · exact ordinary_accept _ _

theorem ordinary_lastIndex (name : String) : Ordinary (lastIndex name) := by
  unfold lastIndex
  split
  · exact .ok _
  · exact .error trivial
  · exact .error trivial

theorem ordinary_putIn (root : Content) (place : List Key) (name : String) (v : Value) :
    Ordinary (root.putIn place name v) := by
  unfold putIn
  dsimp only
  split
  · refine .bind (ordinary_lastIndex _) fun k => ?_
    split
    · exact ordinary_refuse _ _ _ _
    · exact .bind (ordinary_put _ _ _ _) fun _ => .ok _
  · refine .bind (ordinary_lastIndex _) fun k => ?_
    split
    · exact ordinary_refuse _ _ _ _
    · exact .ite (.bind (ordinary_put _ _ _ _) fun _ => .ok _) (ordinary_refuse _ _ _ _)
  · exact .bind (ordinary_put _ _ _ _) fun _ => .ok _

theorem ordinary_containerAt? (root : Content) (place : List Key) (c : Content) :
    Ordinary (root.containerAt? place c) := by
  unfold containerAt?
  refine .ite (.ok _) ?_
  split
  · exact .ok _
  · exact .error trivial
  · split
    · exact .ok _
    next fault _ =>
      apply FailsOnly.error
      unfold referenceFault
      split
      · trivial
      · trivial
  · exact .ok _

theorem ordinary_enter (w : Walk) (name : String) : Ordinary (w.enter name) := by
  unfold Walk.enter
  dsimp only
  split
  · exact .error trivial
  · exact .ite (ordinary_refuse _ _ _ _) (ordinary_refuse _ _ _ _)
  next key _ =>
    refine .bind ?_ fun there? => ?_
    · cases ((w.root.at? w.place).getD null).part? key with
      | none => exact .ok _
      | some c => exact ordinary_containerAt? _ _ _
    · cases there? with
      | some there => exact .ok _
      | none =>
          -- what is no container makes way for a mapping, except in a tuple
          cases key with
          | index i => exact .ite (.bind (ordinary_refuse _ _ _ _) fun _ => .ok _) (.ok _)
          | entry key => exact .ok _

theorem ordinary_update (root : Content) (v : Value) (path : List String) :
    Ordinary (root.update v path) := by
  unfold update
  cases path.getLast? with
  | none => exact .error trivial
  | some name =>
      exact .bind (.foldlM ordinary_enter _ _) fun _ => ordinary_putIn _ _ _ _

end Content

theorem Override.ordinary_collect (overrides : List String) : Ordinary (collect overrides) := by
  refine .foldlM (fun root text => .bind ?_ fun _ => Content.ordinary_update _ _ _) _ _
  unfold value
  split
  · exact .ok _
  · exact .mapError fun _ _ => trivial

theorem ordinary_mergeEntry (d : Draft) (entry : Atom × Content) :
    Ordinary (mergeEntry d entry) := by
  obtain ⟨key, c⟩ := entry
  unfold mergeEntry
  dsimp only
  split
  · exact .ite (.error trivial) (.error trivial)
  · split
    · exact .ok _
    · exact .ite (.error trivial) (.error trivial)

theorem ordinary_merge (d : Draft) (entries : List (Atom × Content)) : Ordinary (merge d entries) :=
  .foldlM ordinary_mergeEntry _ _

theorem ordinary_readDocument (text : String) : Ordinary (readDocument text) :=
  .mapError fun _ _ => trivial

theorem ordinary_containerEntries (v : Value) : Ordinary (containerEntries v) := by
  unfold containerEntries
  split
  · exact Content.ordinary_acceptEntries _ _ _
  · exact .bind (Content.ordinary_acceptItems _ _ _) fun _ => .error trivial
  · exact .error trivial

theorem ordinary_fileEntries (text : String) : Ordinary (fileEntries text) := by
  refine .bind (ordinary_readDocument _) fun v => ?_
  split
  · exact .ok _
  · refine .bind (ordinary_readDocument _) fun v => ?_
    split
    · exact .ok _
    · exact ordinary_containerEntries _
    · exact ordinary_containerEntries _
  · exact ordinary_containerEntries _
  · exact ordinary_containerEntries _
  · exact .error trivial

theorem ordinary_readFile (files : Files) (path : String) : Ordinary (readFile files path) := by
  refine .bind (.mapError fun _ _ => trivial) fun bytes => .bind ?_ ordinary_fileEntries
  unfold decodeText
  split
  · exact .ok _
  · exact .error trivial

theorem ordinary_draft (files : Files) (path? : Option String) (overrides : List String) :
    Ordinary (draft files path? overrides) := by
  have hmerge : ∀ entries, Ordinary (do
      let d ← merge {} entries
      merge d (← overrideEntries overrides)) := fun _ =>
    .bind (ordinary_merge _ _) fun _ =>
      .bind (.bind (Override.ordinary_collect _) fun _ => .ok _) fun _ => ordinary_merge _ _
  cases path? with
  | some path => exact .bind (ordinary_readFile files path) hmerge
  | none => exact hmerge []

theorem Draft.ordinary_settle (d : Draft) (f : Field) (read : Content → Except Rejection α)
    (slot : Slot α) : Ordinary (d.settle f read slot) := by
  cases slot with
  | value x => exact .ok _
  | term source =>
      exact .bind (.mapError (Interpolation.Term.failsOnly_ofText source)) fun _ =>
        .mapError fun _ _ => trivial

/-- Loading settings fails, whatever files and overrides hold, with ordinary faults only. -/
theorem ordinary_load (files : Files) (path? : Option String) (overrides : List String) :
    Ordinary (load files path? overrides) :=
  .bind (ordinary_draft _ _ _) fun d => .bind (d.ordinary_settle _ _ _) fun _ =>
    .bind (d.ordinary_settle _ _ _) fun _ => .ok _

end Settings

end Chip8
