import Chip8.Proofs.Drawing
import Chip8.Screen.Text

set_option autoImplicit false

/-! # Reading a screen off its text

A buffer of pixels is printed row by row, one character a pixel, with a line feed between two rows
and nowhere else. So the lines of the text are the rows (`Screen.linesOf_text`), and a character
tells whether its pixel is lit (`Screen.shows_of_toText?`). On a reachable screen a pixel that is
lit is 1, and the text tells the whole screen. -/

namespace Chip8.Screen

/-! ## Rows -/

variable {width : Nat} {pixels : List UInt8}

theorem length_rowsOf (width : Nat) (pixels : List UInt8) :
    (rowsOf width pixels).length = pixels.length / width := by
  rw [rowsOf, List.length_map, List.length_range]

theorem getElem?_rowsOf {y : Nat} (hy : y < pixels.length / width) :
    (rowsOf width pixels)[y]? = some ((pixels.drop (y * width)).take width) := by
  rw [rowsOf, List.getElem?_map, List.getElem?_range hy]
  rfl

/-- Every row is full. -/
theorem row_end_le {y : Nat} (hy : y < pixels.length / width) :
    y * width + width ≤ pixels.length := by
  have hrows : (y + 1) * width ≤ pixels.length / width * width := Nat.mul_le_mul_right width hy
  rw [Nat.succ_mul] at hrows
  exact Nat.le_trans hrows (Nat.div_mul_le_self pixels.length width)

theorem length_of_mem_rowsOf {row : List UInt8} (h : row ∈ rowsOf width pixels) :
    row.length = width := by
  obtain ⟨y, hy, rfl⟩ := List.mem_map.1 h
  have hend := row_end_le (List.mem_range.1 hy)
  rw [List.length_take, List.length_drop]
  omega

theorem rowsOf_ne_nil (hpixels : pixels ≠ []) (hdvd : width ∣ pixels.length) :
    rowsOf width pixels ≠ [] := by
  have hpos : 0 < pixels.length := List.length_pos_iff.2 hpixels
  have hrows : 0 < pixels.length / width :=
    Nat.div_pos (Nat.le_of_dvd hpos hdvd) (Nat.pos_of_dvd_of_pos hdvd hpos)
  rwa [← List.length_pos_iff, length_rowsOf]

/-! ## Lines -/

/-- The lines of a text: what stands between its line feeds. -/
def linesOf (text : String) : List (List Char) := text.toList.splitOn '\n'

/-- Character `x` of line `y`. -/
def charAt? (text : String) (y x : Nat) : Option Char := (linesOf text)[y]?.bind (·[x]?)

theorem linesOf_intercalate {lines : List String} (hlines : lines ≠ [])
    (h : ∀ line ∈ lines, '\n' ∉ line.toList) :
    linesOf ("\n".intercalate lines) = lines.map String.toList := by
  have hinner : ∀ line ∈ lines.map String.toList, '\n' ∉ line := by
    intro line hline
    obtain ⟨text, htext, rfl⟩ := List.mem_map.1 hline
    exact h text htext
  rw [linesOf, String.toList_intercalate]
  exact List.splitOn_intercalate '\n' hinner (mt List.map_eq_nil_iff.1 hlines)

variable {on off : Char}

/-- The character of a pixel. -/
def mark (on off : Char) (pixel : UInt8) : Char := if pixel ≠ 0 then on else off

theorem toList_lineText (on off : Char) (row : List UInt8) :
    (lineText on.toString off.toString row).toList = row.map (mark on off) := by
  induction row with
  | nil => rfl
  | cons pixel row ih =>
      have hpixel : (if pixel ≠ 0 then on.toString else off.toString).toList =
          [mark on off pixel] := by
        rw [mark]
        split <;> exact String.toList_singleton _
      rw [lineText, List.map_cons, String.join_cons, String.toList_append, hpixel, List.map_cons]
      exact congrArg (mark on off pixel :: ·) ih

theorem mark_ne {c : Char} (hon : on ≠ c) (hoff : off ≠ c) (pixel : UInt8) :
    mark on off pixel ≠ c := by
  rw [mark]
  split
  · exact hon
  · exact hoff

theorem mark_eq_on (hne : on ≠ off) (pixel : UInt8) : mark on off pixel = on ↔ pixel ≠ 0 := by
  rw [mark]
  split
  case isTrue hlit => exact ⟨fun _ => hlit, fun _ => rfl⟩
  case isFalse hdark => exact ⟨fun h => absurd h.symm hne, fun h => absurd h hdark⟩

/-- The lines of a text are the rows of the buffer, a character a pixel. -/
theorem linesOf_text (hrows : rowsOf width pixels ≠ []) (hon : on ≠ '\n') (hoff : off ≠ '\n') :
    linesOf ("\n".intercalate ((rowsOf width pixels).map (lineText on.toString off.toString))) =
      (rowsOf width pixels).map (List.map (mark on off)) := by
  have hinner : ∀ line ∈ (rowsOf width pixels).map (lineText on.toString off.toString),
      '\n' ∉ line.toList := by
    intro line hline hmem
    obtain ⟨row, -, rfl⟩ := List.mem_map.1 hline
    rw [toList_lineText] at hmem
    obtain ⟨pixel, -, hpixel⟩ := List.mem_map.1 hmem
    exact mark_ne hon hoff pixel hpixel
  rw [linesOf_intercalate (mt List.map_eq_nil_iff.1 hrows) hinner, List.map_map]
  exact List.map_congr_left fun row _ => toList_lineText on off row

/-! ## Texts that show buffers -/

/-- A text shows a buffer: it has a line for each row and a character for each pixel of a row, and
    the character is `on` where the pixel is lit and only there. -/
structure Shows (text : String) (pixels : List UInt8) (width : Nat) (on : Char) : Prop where
  lines : (linesOf text).length = pixels.length / width
  columns : ∀ line ∈ linesOf text, line.length = width
  lit : ∀ y < pixels.length / width, ∀ x < width, ∃ h : y * width + x < pixels.length,
    charAt? text y x = some on ↔ pixels[y * width + x] ≠ 0

theorem shows_text (hrows : rowsOf width pixels ≠ []) (hne : on ≠ off) (hon : on ≠ '\n')
    (hoff : off ≠ '\n') :
    Shows ("\n".intercalate ((rowsOf width pixels).map (lineText on.toString off.toString)))
      pixels width on where
  lines := by rw [linesOf_text hrows hon hoff, List.length_map, length_rowsOf]
  columns := by
    intro line hline
    rw [linesOf_text hrows hon hoff] at hline
    obtain ⟨row, hrow, rfl⟩ := List.mem_map.1 hline
    rw [List.length_map, length_of_mem_rowsOf hrow]
  lit := by
    intro y hy x hx
    have hend := row_end_le hy
    have h : y * width + x < pixels.length := by omega
    refine ⟨h, ?_⟩
    rw [charAt?, linesOf_text hrows hon hoff, List.getElem?_map, getElem?_rowsOf hy]
    show ((pixels.drop (y * width)).take width |>.map (mark on off))[x]? = some on ↔ _
    rw [List.getElem?_map, List.getElem?_take_of_lt hx, List.getElem?_drop,
      List.getElem?_eq_getElem h, Option.map_some, Option.some_inj, mark_eq_on hne]

/-! ## Widths -/

theorem toText?_eq_none_iff (pixels : List UInt8) (width : Int) (on off : String) :
    toText? pixels width on off = none ↔
      width ≤ 0 ∨ maxWidth < width ∨ ¬ width ∣ (pixels.length : Int) := by
  rw [toText?, Int.dvd_iff_emod_eq_zero]
  split
  case isTrue h => exact ⟨fun _ => h, fun _ => rfl⟩
  case isFalse h => exact ⟨fun hnone => absurd hnone (Option.some_ne_none _), fun h' => absurd h' h⟩

/-- A width that fits is the number of columns, and the text is made of full rows. -/
theorem eq_of_toText? {width : Int} {on off text : String}
    (h : toText? pixels width on off = some text) :
    ∃ columns : Nat, width = columns ∧ columns ∣ pixels.length ∧
      text = "\n".intercalate ((rowsOf columns pixels).map (lineText on off)) := by
  have hfits : ¬ (width ≤ 0 ∨ maxWidth < width ∨ ¬ width ∣ (pixels.length : Int)) := by
    rw [← toText?_eq_none_iff pixels width on off, h]
    exact Option.some_ne_none text
  rw [not_or, not_or, not_not] at hfits
  obtain ⟨hpos, -, hdvd⟩ := hfits
  obtain ⟨columns, rfl⟩ := Int.eq_ofNat_of_zero_le (Int.le_of_lt (Int.not_le.1 hpos))
  rw [toText?] at h
  split at h
  · exact absurd h.symm (Option.some_ne_none text)
  · exact ⟨columns, rfl, Int.natCast_dvd_natCast.1 hdvd, (Option.some.inj h).symm⟩

/-- A text that is printed shows its buffer. -/
theorem shows_of_toText? {width : Int} {text : String} (hpixels : pixels ≠ []) (hne : on ≠ off)
    (hon : on ≠ '\n') (hoff : off ≠ '\n')
    (htext : toText? pixels width on.toString off.toString = some text) :
    ∃ columns : Nat, width = columns ∧ Shows text pixels columns on := by
  obtain ⟨columns, hwidth, hdvd, rfl⟩ := eq_of_toText? htext
  exact ⟨columns, hwidth, shows_text (rowsOf_ne_nil hpixels hdvd) hne hon hoff⟩

/-! ## Machine screens -/

variable {s t : Screen}

theorem length_buffer (s : Screen) : s.buffer.length = 2048 := s.pixels.length_toList

theorem getElem_buffer (s : Screen) {row col : Nat} (hrow : row < 32) (hcol : col < 64)
    (h : row * 64 + col < s.buffer.length) : s.buffer[row * 64 + col] = s.pixel row col := by
  simp only [buffer, pixel, Vector.getElem_toList, Nat.mod_eq_of_lt hrow, Nat.mod_eq_of_lt hcol]

theorem toText?_buffer (s : Screen) : toText? s.buffer 64 "#" "." = some s.text := by
  rw [toText?, length_buffer, if_neg (by decide)]
  rfl

theorem IsBinary.charAt?_text (hs : s.IsBinary) {row col : Nat} (hrow : row < 32)
    (hcol : col < 64) : charAt? s.text row col = some '#' ↔ s.pixel row col = 1 := by
  have hpixels : s.buffer ≠ [] := by
    rw [← List.length_pos_iff, length_buffer]
    decide
  obtain ⟨columns, hcolumns, hshows⟩ :=
    shows_of_toText? hpixels (by decide : '#' ≠ '.') (by decide) (by decide) s.toText?_buffer
  obtain rfl : columns = 64 := by omega
  obtain ⟨h, hlit⟩ := hshows.lit row (by rw [length_buffer]; exact hrow) col hcol
  rw [hlit, getElem_buffer s hrow hcol]
  rcases hs row col with hpixel | hpixel <;> rw [hpixel] <;> decide

/-- Screens of lit and dark pixels are told apart by their texts. -/
theorem IsBinary.eq_of_text_eq (hs : s.IsBinary) (ht : t.IsBinary) (h : s.text = t.text) :
    s = t := by
  refine ext_pixel fun row col => ?_
  have hrow : row % 32 < 32 := Nat.mod_lt row (by decide)
  have hcol : col % 64 < 64 := Nat.mod_lt col (by decide)
  have hsame : s.pixel row col = 1 ↔ t.pixel row col = 1 := by
    rw [← pixel_mod s, ← pixel_mod t, ← hs.charAt?_text hrow hcol, ← ht.charAt?_text hrow hcol, h]
  rcases hs row col with hpixel | hpixel
  · rcases ht row col with hother | hother
    · rw [hpixel, hother]
    · rw [hpixel, hother] at hsame
      exact absurd (hsame.2 rfl) (by decide)
  · rw [hpixel, hsame.1 hpixel]

/-- Every pixel of a reachable screen is 0 or 1. -/
theorem isBinary_of_reachable {config : Config} {rng : RandomKey} {s : State}
    (h : Reachable config rng s) : s.screen.IsBinary := by
  have hwell : s.WellFormed := by
    induction h with
    | initial => exact State.wellFormed_initial config rng
    | next _ hnext ih => exact ih.next hnext
  exact hwell.screen

/-- There is no text exactly when the width is not positive, is larger than any width, or does not
    divide the number of pixels. Otherwise, for two different characters that are not line feeds,
    the lines of the text are as many as the rows, each has as many characters as there are
    columns, and character `x` of line `y` is `on` exactly when pixel `y * width + x` is lit. So the
    text of a reachable screen has a `#` exactly where the pixel is 1, and reachable screens with
    equal texts are equal. -/
theorem text_determines_pixels (pixels : List UInt8) (width : Int) :
    (∀ on off : String, toText? pixels width on off = none ↔
        width ≤ 0 ∨ maxWidth < width ∨ ¬ width ∣ (pixels.length : Int)) ∧
      (∀ {on off : Char} {text : String}, pixels ≠ [] → on ≠ off → on ≠ '\n' → off ≠ '\n' →
        toText? pixels width on.toString off.toString = some text →
        ∃ columns : Nat, width = columns ∧ Shows text pixels columns on) ∧
      (∀ {config : Config} {rng : RandomKey} {s : State}, Reachable config rng s →
        toText? s.screen.buffer 64 "#" "." = some s.screen.text ∧
          ∀ row < 32, ∀ col < 64,
            charAt? s.screen.text row col = some '#' ↔ s.screen.pixel row col = 1) ∧
      (∀ {config config' : Config} {rng rng' : RandomKey} {s t : State},
        Reachable config rng s → Reachable config' rng' t → s.screen.text = t.screen.text →
          s.screen = t.screen) := by
  refine ⟨toText?_eq_none_iff pixels width, shows_of_toText?, ?_, ?_⟩
  · intro config rng s hs
    refine ⟨s.screen.toText?_buffer, fun row hrow col hcol => ?_⟩
    exact (isBinary_of_reachable hs).charAt?_text hrow hcol
  · intro config config' rng rng' s t hs ht
    exact (isBinary_of_reachable hs).eq_of_text_eq (isBinary_of_reachable ht)

/-- Two rows of four pixels, and the digit 0 of the font drawn by machines of different profiles. -/
theorem text_determines_pixels_glyph :
    let pixels : List UInt8 := [1, 0, 0, 0, 0, 7, 0, 0]
    let drawn (config : Config) : State :=
      ((State.initial config .zero).executeWord 0xA050).executeWord 0xD005
    let s : State := drawn ⟨.core, true⟩
    let t : State := drawn ⟨.extended, false⟩
    toText? pixels 4 "#" "." = some "#...\n.#.." ∧ Shows "#...\n.#.." pixels 4 '#' ∧
      toText? pixels 3 "#" "." = none ∧
      Reachable ⟨.core, true⟩ .zero s ∧ Reachable ⟨.extended, false⟩ .zero t ∧
      charAt? s.screen.text 0 3 = some '#' ∧ charAt? s.screen.text 0 4 ≠ some '#' ∧
      s ≠ t ∧ s.screen.text = t.screen.text ∧ s.screen = t.screen := by
  intro pixels drawn s t
  have htext : toText? pixels 4 "#" "." = some "#...\n.#.." := by decide +kernel
  obtain ⟨hnone, -, -, -⟩ := text_determines_pixels pixels 3
  obtain ⟨-, hshows, hscreen, hsame⟩ := text_determines_pixels pixels 4
  obtain ⟨columns, hcolumns, hpixels⟩ :=
    hshows (by decide) (by decide : '#' ≠ '.') (by decide) (by decide) htext
  obtain rfl : columns = 4 := by omega
  have hreachable (config : Config) : Reachable config .zero (drawn config) :=
    (Reachable.initial.next (.execute _ 0xA050)).next (.execute _ 0xD005)
  have hs := hreachable ⟨.core, true⟩
  have ht := hreachable ⟨.extended, false⟩
  have hequal : s.screen.text = t.screen.text := rfl
  have hpixel (col : Nat) : s.screen.pixel 0 col =
      (Sprite.layer State.initialMemory 0x50 5 0 0).pixel 0 col := by
    have hdraw := State.executeWord_of_draw ((State.initial ⟨.core, true⟩ .zero).executeWord 0xA050)
      (w := 0xD005) rfl
    show (State.executeWord _ 0xD005).screen.pixel 0 col = _
    rw [hdraw, State.screen_draw, pixel_flip]
    exact (congrArg (· ^^^ _) (pixel_blank 0 col)).trans UInt8.zero_xor
  obtain ⟨-, hchar⟩ := hscreen hs
  refine ⟨htext, hpixels, (hnone "#" ".").2 (by decide), hs, ht, ?_, ?_, ?_, hequal, ?_⟩
  · refine (hchar 0 (by decide) 3 (by decide)).2 ?_
    rw [hpixel, Sprite.layer, pixel_ofPixels]
    decide +kernel
  · refine mt (hchar 0 (by decide) 4 (by decide)).1 ?_
    rw [hpixel, Sprite.layer, pixel_ofPixels]
    decide +kernel
  · intro h
    exact absurd (congrArg State.config h) (by decide)
  · exact hsame hs ht hequal

/-- An empty buffer has a width that divides its length and yet is too large. -/
theorem toText?_too_wide :
    ¬ (toText? [] 9223372036854775808 "#" "." = none ↔
      (9223372036854775808 : Int) ≤ 0 ∨
        ¬ (9223372036854775808 : Int) ∣ (([] : List UInt8).length : Int)) := by
  decide

end Chip8.Screen
