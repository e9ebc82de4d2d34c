import AlertRelay.Proofs.Text.Renaming
import AlertRelay.Template

/-!
# Renaming a Placeholder of a Template

A template is renamed place by place: the url, the body and the value of each header on its own,
while the names and the order of the headers and the method are not touched. So what holds of the
renaming of a text holds of the renaming of a template that mentions the new placeholder in none of
its places.

## Main results

* `Template.replace_undone`: **renaming a placeholder can be undone**.
-/

namespace AlertRelay.Template

open Text

/-- A placeholder occurs in one of the places of a template. -/
def Mentions (t : Template) (p : Placeholder) : Prop :=
  p.OccursIn t.url.toList ∨ p.OccursIn t.body.toList ∨
    ∃ header ∈ t.headers, p.OccursIn header.2.toList

instance (t : Template) (p : Placeholder) : Decidable (t.Mentions p) :=
  inferInstanceAs (Decidable (_ ∨ _ ∨ ∃ header ∈ t.headers, p.OccursIn header.2.toList))

variable {t : Template} {p q : Placeholder}

/-- A renaming to a placeholder that a template does not mention can be undone. -/
theorem replace_cancel (hq : ¬t.Mentions q) :
    (t.replace p.text q.text).replace q.text p.text = t := by
  obtain ⟨hurl, hbody, hheaders⟩ : _ ∧ _ ∧ _ := by simpa only [Mentions, not_or] using hq
  have hvalues : (t.headers.mapValues (Text.replace p.text q.text)).mapValues
      (Text.replace q.text p.text) = t.headers := by
    rw [Table.mapValues, Table.mapValues, List.map_map]
    refine (List.map_congr_left fun header hheader => ?_).trans (List.map_id _)
    have hvalue : ¬q.OccursIn header.2.toList := fun h => hheaders ⟨header, hheader, h⟩
    rw [Function.comp_apply, replace_text_cancel hvalue]
    rfl
  rw [replace, replace, replace_text_cancel hurl, replace_text_cancel hbody, hvalues]

/-- A template does not mention a placeholder that was renamed. -/
theorem not_mentions_replace (hne : p ≠ q) (t : Template) :
    ¬(t.replace p.text q.text).Mentions p := by
  rintro (hurl | hbody | ⟨header, hheader, hvalue⟩)
  · exact not_occursIn_replace_text hne t.url hurl
  · exact not_occursIn_replace_text hne t.body hbody
  · obtain ⟨original, -, rfl⟩ := List.mem_map.mp hheader
    exact not_occursIn_replace_text hne original.2 hvalue

/-- **Renaming a placeholder can be undone.** Let a template mention a placeholder `q` in none of
its places. Then replacing a placeholder `p` by `q` and then `q` by `p` gives the template as it
was, and in between it mentions `p` in none of its places, unless both are the same. -/
theorem replace_undone (hq : ¬t.Mentions q) :
    (t.replace p.text q.text).replace q.text p.text = t ∧
      (p ≠ q → ¬(t.replace p.text q.text).Mentions p) :=
  ⟨replace_cancel hq, fun hne => not_mentions_replace hne t⟩

/-- Stray brackets beside the occurrences, and a new placeholder without a name. -/
theorem replace_undone_brackets :
    let p : Placeholder := ⟨['A'], by simp⟩
    let q : Placeholder := ⟨[], nofun⟩
    let t : Template :=
      { url := "x][A][[A]]", method := "PUT", body := "[A[A]A]"
        headers := [("[A]", "[[A][B]"), ("[]", "")] }
    ¬t.Mentions q ∧
      t.replace p.text q.text =
        { url := "x][][[]]", method := "PUT", body := "[A[]A]"
          headers := [("[A]", "[[][B]"), ("[]", "")] } ∧
      (t.replace p.text q.text).replace q.text p.text = t ∧
      p ≠ q ∧ ¬(t.replace p.text q.text).Mentions p := by
  intro p q t
  have hq : ¬t.Mentions q := by decide
  have hne : p ≠ q := by decide
  obtain ⟨hback, hgone⟩ := replace_undone hq (p := p)
  exact ⟨hq, by decide +kernel, hback, hne, hgone hne⟩

end AlertRelay.Template
