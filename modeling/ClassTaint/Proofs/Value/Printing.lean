import ClassTaint.Proofs.Text.Printing
import ClassTaint.Value

namespace ClassTaint

/-! Values are written in printable characters. Numbers and dates are written in
ASCII, texts are quoted at every depth, and collections only add brackets. -/

open Text

namespace Number

theorem isPrintable_of_mem_toDigits {number : Nat} {letter : Char}
    (member : letter ∈ Nat.toDigits 10 number) : isPrintable letter = true := by
  have digit := Nat.isDigit_of_mem_toDigits (by decide) (by decide) member
  have range : 48 ≤ letter.toNat ∧ letter.toNat ≤ 57 := by
    simpa [Char.isDigit, UInt32.le_iff_toNat_le] using digit
  exact isPrintable_of_range (by omega) (by omega)

theorem isPrintableText_naturalText (number : Nat) :
    IsPrintableText (naturalText number) :=
  isPrintableText_ofList.mpr fun _ => isPrintable_of_mem_toDigits

theorem isPrintableText_integerText (number : Int) :
    IsPrintableText (integerText number) := by
  cases number with
  | ofNat number => exact isPrintableText_naturalText number
  | negSucc number =>
      exact isPrintableText_append.mpr ⟨by decide, isPrintableText_naturalText _⟩

theorem isPrintableText_twoDigitText (number : Nat) :
    IsPrintableText (twoDigitText number) := by
  unfold twoDigitText
  split
  · exact isPrintableText_append.mpr ⟨by decide, isPrintableText_naturalText number⟩
  · exact isPrintableText_naturalText number

theorem isPrintableText_zeros (count : Nat) : IsPrintableText (zeros count) := by
  rw [zeros, isPrintableText_ofList]
  intro letter member
  rw [(List.mem_replicate.mp member).2]
  decide

section Digits

variable {digits : List Char} (printable : ∀ letter ∈ digits, isPrintable letter = true)

include printable

theorem isPrintable_take (count : Nat) :
    ∀ letter ∈ digits.take count, isPrintable letter = true :=
  fun letter member => printable letter (List.mem_of_mem_take member)

theorem isPrintable_drop (count : Nat) :
    ∀ letter ∈ digits.drop count, isPrintable letter = true :=
  fun letter member => printable letter (List.mem_of_mem_drop member)

theorem isPrintableText_plainText (pointAt : Int) :
    IsPrintableText (plainText digits pointAt) := by
  have point : IsPrintableText "." := by decide
  have leading : IsPrintableText "0." := by decide
  have trailing : IsPrintableText ".0" := by decide
  unfold plainText
  split
  · simp only [isPrintableText_append, isPrintableText_ofList]
    exact ⟨⟨leading, isPrintableText_zeros _⟩, printable⟩
  split
  · simp only [isPrintableText_append, isPrintableText_ofList]
    exact ⟨⟨isPrintable_take printable _, point⟩, isPrintable_drop printable _⟩
  · simp only [isPrintableText_append, isPrintableText_ofList]
    exact ⟨⟨printable, isPrintableText_zeros _⟩, trailing⟩

theorem isPrintableText_scientificText (exponent : Int) :
    IsPrintableText (scientificText digits exponent) := by
  have others := isPrintable_drop printable 1
  have mark : IsPrintableText "e" := by decide
  simp only [scientificText, isPrintableText_append, isPrintableText_ofList]
  refine ⟨⟨⟨⟨isPrintable_take printable 1, ?_⟩, mark⟩, ?_⟩,
    isPrintableText_twoDigitText _⟩
  · split
    · decide
    · exact isPrintableText_append.mpr
        ⟨by decide, isPrintableText_ofList.mpr others⟩
  · split <;> decide

end Digits

namespace Layout

variable {layout : Layout}

theorem isPrintableText_decimalText (decimal : Decimal) :
    IsPrintableText (layout.decimalText decimal) := by
  have digits : ∀ letter ∈ Nat.toDigits 10 decimal.digits, isPrintable letter = true :=
    fun _ => isPrintable_of_mem_toDigits
  simp only [decimalText]
  split
  · exact isPrintableText_plainText digits _
  · exact isPrintableText_scientificText digits _

theorem isPrintableText_floatText (infinite : IsPrintableText layout.infinite)
    (undefined : IsPrintableText layout.undefined) (number : Float) :
    IsPrintableText (layout.floatText number) := by
  simp only [floatText]
  generalize number.toBits = bits
  have sign : IsPrintableText (if bits.toNat / Nat.pow 2 63 = 1 then "-" else "") := by
    split <;> decide
  split
  · exact isPrintableText_append.mpr ⟨sign, by decide⟩
  split
  · exact isPrintableText_append.mpr ⟨sign, isPrintableText_decimalText _⟩
  split
  · exact isPrintableText_append.mpr ⟨sign, infinite⟩
  · exact undefined

end Layout

end Number

section Calendar

theorem isPrintableText_commaSeparated {fields : List String}
    (printable : ∀ field ∈ fields, IsPrintableText field) :
    IsPrintableText (commaSeparated fields) := by
  induction fields with
  | nil => decide
  | cons first rest induction =>
      obtain ⟨here, others⟩ := List.forall_mem_cons.mp printable
      cases rest with
      | nil => exact here
      | cons second rest =>
          simp only [commaSeparated, isPrintableText_append]
          exact ⟨⟨here, by decide⟩, induction others⟩

theorem isPrintableText_of_mem_map_naturalText {numbers : List Nat} :
    ∀ field ∈ numbers.map Number.naturalText, IsPrintableText field :=
  List.forall_mem_map.mpr fun number _ => Number.isPrintableText_naturalText number

theorem Date.isPrintableText_fields (date : Date) :
    ∀ field ∈ date.fields, IsPrintableText field := by
  rw [fields]
  exact isPrintableText_of_mem_map_naturalText

theorem Date.isPrintableText_render (date : Date) : IsPrintableText date.render := by
  unfold render
  rw [isPrintableText_append, isPrintableText_append]
  exact ⟨⟨by decide, isPrintableText_commaSeparated date.isPrintableText_fields⟩,
    by decide⟩

theorem isPrintableText_renderOffset (minutes : Int) :
    IsPrintableText (renderOffset minutes) := by
  unfold renderOffset
  split
  · decide
  · simp only [isPrintableText_append]
    refine ⟨⟨⟨⟨by decide, ?_⟩, by decide⟩, Number.isPrintableText_naturalText _⟩,
      by decide⟩
    split <;> decide

theorem Timestamp.isPrintableText_render (moment : Timestamp) :
    IsPrintableText moment.render := by
  unfold render
  simp only [isPrintableText_append]
  refine ⟨⟨by decide, ?_⟩, by decide⟩
  apply isPrintableText_commaSeparated
  rw [List.forall_mem_append, List.forall_mem_append]
  refine ⟨⟨moment.date.isPrintableText_fields,
    isPrintableText_of_mem_map_naturalText⟩, ?_⟩
  intro field member
  obtain ⟨minutes, -, rfl⟩ := List.mem_map.mp member
  exact isPrintableText_append.mpr ⟨by decide, isPrintableText_renderOffset minutes⟩

end Calendar

namespace Value

mutual

/-- Whatever a value holds, and however deep, its text is printable. -/
theorem isPrintableText_render : ∀ value : Value, IsPrintableText value.render
  | null => by
      rw [render]
      decide
  | bool truth => by
      rw [render]
      cases truth <;> decide
  | integer number => by
      rw [render]
      exact Number.isPrintableText_integerText number
  | float number => by
      rw [render]
      exact Number.Layout.isPrintableText_floatText (by decide) (by decide) number
  | undefined origin => by
      rw [render]
      decide
  | text content => by
      rw [render]
      exact isPrintableText_quoted content
  | date day => by
      rw [render]
      exact day.isPrintableText_render
  | timestamp moment => by
      rw [render]
      exact moment.isPrintableText_render
  | list items => by
      rw [render, isPrintableText_append, isPrintableText_append]
      exact ⟨⟨by decide, isPrintableText_renderItems items⟩, by decide⟩
  | mapping pairs => by
      rw [render, isPrintableText_append, isPrintableText_append]
      exact ⟨⟨by decide, isPrintableText_renderPairs pairs⟩, by decide⟩
  | set [] => by
      rw [render]
      decide
  | set (member :: members) => by
      rw [render, isPrintableText_append, isPrintableText_append]
      exact ⟨⟨by decide, isPrintableText_renderItems (member :: members)⟩, by decide⟩
  | enclosing .list => by
      rw [render]
      decide
  | enclosing .mapping => by
      rw [render]
      decide

theorem isPrintableText_renderItems :
    ∀ items : List Value, IsPrintableText (renderItems items)
  | [] => by
      rw [renderItems]
      decide
  | [last] => by
      rw [renderItems]
      exact isPrintableText_render last
  | first :: second :: rest => by
      simp only [renderItems, isPrintableText_append]
      exact ⟨⟨isPrintableText_render first, by decide⟩,
        isPrintableText_renderItems (second :: rest)⟩

theorem isPrintableText_renderPairs :
    ∀ pairs : List (Value × Value), IsPrintableText (renderPairs pairs)
  | [] => by
      rw [renderPairs]
      decide
  | [(key, value)] => by
      rw [renderPairs, isPrintableText_append, isPrintableText_append]
      exact ⟨⟨isPrintableText_render key, by decide⟩, isPrintableText_render value⟩
  | (key, value) :: second :: rest => by
      simp only [renderPairs, isPrintableText_append]
      exact ⟨⟨⟨⟨isPrintableText_render key, by decide⟩, isPrintableText_render value⟩,
        by decide⟩, isPrintableText_renderPairs (second :: rest)⟩

end

end Value

end ClassTaint
