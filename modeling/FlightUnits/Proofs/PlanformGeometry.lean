import FlightUnits.Proofs.LiftBalance

/-!
# The geometry of a planform

Span, chord and aspect ratio in exact arithmetic. A span or a chord that was found is in feet, so
that the other formulae take it over as it is: the chord of a span is the chord that the span was
found from, and the aspect ratio of the span is the same over the chord as over the area. What is
neither a length nor an area has no aspect ratio.
-/

namespace FlightUnits.Flight

open Standard

/-! ### The formulae on converted values -/

section Formulae

variable {t : UnitTable Rat} {s c b x : Quantity Rat} {area chord span : Rat} {d : Dimension}

lemma wingSpan_exact (hs : s.convert t .squareFoot = .ok ⟨area, .squareFoot⟩)
    (hc : c.convert t .foot = .ok ⟨chord, .foot⟩) (hne : chord ≠ 0) :
    wingSpan t s c = .ok ⟨area / chord, .foot⟩ := by
  rw [wingSpan, hs, ok_bind, hc, ok_bind, div_of_ne hne]
  rfl

lemma wingChord_exact (hs : s.convert t .squareFoot = .ok ⟨area, .squareFoot⟩)
    (hb : b.convert t .foot = .ok ⟨span, .foot⟩) (hne : span ≠ 0) :
    wingChord t s b = .ok ⟨area / span, .foot⟩ := by
  rw [wingChord, hs, ok_bind, hb, ok_bind, div_of_ne hne]
  rfl

lemma aspectRatio_of_chord (hb : b.convert t .foot = .ok ⟨span, .foot⟩)
    (hd : c.dimension t = .ok .length) (hc : c.convert t .foot = .ok ⟨chord, .foot⟩)
    (hne : chord ≠ 0) : aspectRatio t b c = .ok (span / chord) := by
  rw [aspectRatio, hb, ok_bind, hd, ok_bind, if_pos rfl, hc, ok_bind, div_of_ne hne, liftM_ok]

lemma aspectRatio_of_area (hb : b.convert t .foot = .ok ⟨span, .foot⟩)
    (hd : s.dimension t = .ok d) (hlength : d ≠ .length)
    (hs : s.convert t .squareFoot = .ok ⟨area, .squareFoot⟩) (hne : area ≠ 0) :
    aspectRatio t b s = .ok (span * span / area) := by
  have hsquared : Scalar.square span = .ok (span * span) := rfl
  rw [aspectRatio, hb, ok_bind, hd, ok_bind, if_neg hlength, hs, ok_bind, hsquared, liftM_ok,
    ok_bind, div_of_ne hne, liftM_ok]

/-- The span is looked at before the dimension of the other argument. -/
lemma aspectRatio_of_convert_error {f : Fault Rat} (hb : b.convert t .foot = .error f) :
    aspectRatio t b x = .error f := by
  rw [aspectRatio, hb, error_bind]

/-- What is no length is taken for an area. -/
lemma aspectRatio_of_area_error {f : Fault Rat} (hb : b.convert t .foot = .ok ⟨span, .foot⟩)
    (hd : x.dimension t = .ok d) (hlength : d ≠ .length)
    (hx : x.convert t .squareFoot = .error f) : aspectRatio t b x = .error f := by
  rw [aspectRatio, hb, ok_bind, hd, ok_bind, if_neg hlength, hx, error_bind]

end Formulae

/-! ### The planform -/

variable {s c b x : Quantity Rat}

/-- A span of another dimension is refused itself; else the other argument is. -/
lemma aspectRatio_refuses (hlength : dimension x.unit ≠ .length)
    (harea : dimension x.unit ≠ .area) :
    aspectRatio units b x =
      if dimension b.unit = .length then .error (mismatch x.unit .squareFoot)
      else .error (mismatch b.unit .foot) := by
  split
  next hb =>
    exact aspectRatio_of_area_error (convert_valueAt hb) (dimension_quantity x) hlength
      (convert_of_ne harea)
  next hb => exact aspectRatio_of_convert_error (convert_of_ne hb)

/--
The planform of an area and a chord in any units, with `feet` for the chord and `area` for the area
in handbook units. Unless one of them is zero there is a span, its chord is the one that was given,
and its aspect ratio is the same number over the chord as over the area. Over anything that is
neither a length nor an area an aspect ratio is refused for its dimensions, whatever the span.
-/
theorem planform_consistent (hs : dimension s.unit = .area) (hc : dimension c.unit = .length) :
    ∃ area feet : Rat,
      s.convert units .squareFoot = .ok ⟨area, .squareFoot⟩ ∧
      c.convert units .foot = .ok ⟨feet, .foot⟩ ∧
      (area ≠ 0 → feet ≠ 0 →
        ∃ span, wingSpan units s c = .ok ⟨span, .foot⟩ ∧
          wingChord units s ⟨span, .foot⟩ = .ok ⟨feet, .foot⟩ ∧
          ∃ ratio, aspectRatio units ⟨span, .foot⟩ c = .ok ratio ∧
            aspectRatio units ⟨span, .foot⟩ s = .ok ratio) ∧
      ∀ b x : Quantity Rat, dimension x.unit ≠ .length → dimension x.unit ≠ .area →
        ∃ f, aspectRatio units b x = .error f ∧ f.kind = .dimensionMismatch := by
  obtain ⟨area, harea⟩ : ∃ area, s.convert units .squareFoot = .ok ⟨area, .squareFoot⟩ :=
    ⟨_, convert_valueAt hs⟩
  obtain ⟨feet, hfeet⟩ : ∃ feet, c.convert units .foot = .ok ⟨feet, .foot⟩ :=
    ⟨_, convert_valueAt hc⟩
  refine ⟨area, feet, harea, hfeet, ?_, ?_⟩
  · intro hareaNe hfeetNe
    have hspanNe : area / feet ≠ 0 := div_ne_zero hareaNe hfeetNe
    -- the span that is found is in feet, so converting it changes nothing
    have hspan : Quantity.convert units ⟨area / feet, .foot⟩ .foot =
        .ok ⟨area / feet, .foot⟩ := convert_self _
    refine ⟨area / feet, wingSpan_exact harea hfeet hfeetNe, ?_, area / feet / feet, ?_, ?_⟩
    · rw [wingChord_exact harea hspan hspanNe, div_div_cancel₀ hareaNe]
    · have hd : c.dimension units = .ok .length := by rw [dimension_quantity, hc]
      exact aspectRatio_of_chord hspan hd hfeet hfeetNe
    · have hd : s.dimension units = .ok .area := by rw [dimension_quantity, hs]
      have hratio : area / feet * (area / feet) / area = area / feet / feet := by field_simp
      rw [aspectRatio_of_area hspan hd (by decide) harea hareaNe, hratio]
  · intro b x hlength hother
    rw [aspectRatio_refuses hlength hother]
    split
    · exact ⟨_, rfl, rfl⟩
    · exact ⟨_, rfl, rfl⟩

/-- Ten square metres, which are 107.6 square feet in the handbook, and a chord of 48 inches. -/
theorem planform_consistent_inches :
    wingSpan units ⟨(10 : Rat), .squareMetre⟩ ⟨48, .inch⟩ = .ok ⟨269 / 10, .foot⟩ ∧
    wingChord units ⟨(10 : Rat), .squareMetre⟩ ⟨269 / 10, .foot⟩ = .ok ⟨4, .foot⟩ ∧
    aspectRatio units ⟨(269 / 10 : Rat), .foot⟩ ⟨48, .inch⟩ = .ok (269 / 40) ∧
    aspectRatio units ⟨(269 / 10 : Rat), .foot⟩ ⟨10, .squareMetre⟩ = .ok (269 / 40) ∧
    ∃ f, aspectRatio units ⟨(269 / 10 : Rat), .foot⟩ ⟨10, .litre⟩ = .error f ∧
      f.kind = .dimensionMismatch := by
  obtain ⟨area, feet, harea, hfeet, hplanform, hrefused⟩ :=
    planform_consistent (s := ⟨10, .squareMetre⟩) (c := ⟨48, .inch⟩) rfl rfl
  have hsquare : Quantity.convert units ⟨(10 : Rat), .squareMetre⟩ .squareFoot =
      .ok ⟨538 / 5, .squareFoot⟩ := by decide +kernel
  have hinches : Quantity.convert units ⟨(48 : Rat), .inch⟩ .foot = .ok ⟨4, .foot⟩ := by
    decide +kernel
  have hspan : wingSpan units ⟨(10 : Rat), .squareMetre⟩ ⟨48, .inch⟩ = .ok ⟨269 / 10, .foot⟩ := by
    decide +kernel
  have hratio : aspectRatio units ⟨(269 / 10 : Rat), .foot⟩ ⟨48, .inch⟩ = .ok (269 / 40) := by
    decide +kernel
  obtain rfl := value_eq_of_eq_ok hsquare harea
  obtain rfl := value_eq_of_eq_ok hinches hfeet
  obtain ⟨span, hfound, hchord, ratio, hoverChord, hoverArea⟩ :=
    hplanform (by norm_num) (by norm_num)
  obtain rfl := value_eq_of_eq_ok hspan hfound
  obtain rfl := Except.ok.inj (hratio.symm.trans hoverChord)
  exact ⟨hfound, hchord, hoverChord, hoverArea, hrefused _ _ (by decide) (by decide)⟩

end FlightUnits.Flight
