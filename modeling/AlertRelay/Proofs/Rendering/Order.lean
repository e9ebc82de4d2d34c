import AlertRelay.Proofs.Rendering
import AlertRelay.Proofs.Text.Substitution

/-!
# The Order of Replacements

Rendering replaces the tokens in a fixed order, and for values with tokens in them this order
shows. For ordinary values it does not: where no content has an opening bracket and all places of
the template are seamless, replacements of distinct placeholders can be made in any order. Each of
them amounts to the same substitution, in every place on its own.

## Main results

* `Template.applyEach_any_order`: **the order of replacements does not matter**.
-/

namespace AlertRelay.Template

open Text

/-- A template after all edits, one after the other. -/
def applyEach (edits : Edits) (t : Template) : Template :=
  edits.foldl (fun t e => t.replace e.1.text e.2) t

/-- A template after all edits at once. -/
def applyAtOnce (edits : Edits) (t : Template) : Template :=
  { t with
    url := edits.applyAtOnce t.url
    body := edits.applyAtOnce t.body
    headers := t.headers.mapValues edits.applyAtOnce }

/-- No place of a template has an occurrence of a placeholder behind a literal part whose end could
begin a placeholder. -/
structure Seamless (edits : Edits) (t : Template) : Prop where
  url : edits.vocabulary.Seamless t.url.toList
  body : edits.vocabulary.Seamless t.body.toList
  headers : ∀ h ∈ t.headers, edits.vocabulary.Seamless h.2.toList

/-- The edits of a template are edits of its texts. -/
theorem applyEach_eq (edits : Edits) (t : Template) :
    t.applyEach edits =
      { t with
        url := edits.applyEach t.url
        body := edits.applyEach t.body
        headers := t.headers.mapValues edits.applyEach } :=
  foldl_replace_places (fun e : Placeholder × String => e.1.text) Prod.snd edits t

/-- One order of the edits. -/
theorem applyEach_of_perm {order edits : Edits} (h : order.Perm edits)
    (hdistinct : edits.placeholders.Nodup) (hcontents : ∀ e ∈ edits, '[' ∉ e.2.toList)
    {t : Template} (ht : t.Seamless edits) : t.applyEach order = t.applyAtOnce edits := by
  have hplace : ∀ {s : String}, edits.vocabulary.Seamless s.toList →
      order.applyEach s = edits.applyAtOnce s := Edits.applyEach_of_perm h hdistinct hcontents
  have hheaders : t.headers.mapValues order.applyEach = t.headers.mapValues edits.applyAtOnce :=
    List.map_congr_left fun h hh => by rw [hplace (ht.headers h hh)]
  rw [applyEach_eq, applyAtOnce, hplace ht.url, hplace ht.body, hheaders]

/-- **The order of replacements does not matter** for ordinary values. Let the placeholders of some
edits be distinct, let no content have an opening bracket, and let the template be seamless for
them. Then two orders of the edits give the same template: every occurrence of a placeholder has
become its content, and the literal parts, the names and the order of the headers and the method
are those of the template. -/
theorem applyEach_any_order {edits order order' : Edits} (h : order.Perm edits)
    (h' : order'.Perm edits) (hdistinct : edits.placeholders.Nodup)
    (hcontents : ∀ e ∈ edits, '[' ∉ e.2.toList) {t : Template} (ht : t.Seamless edits) :
    t.applyEach order = t.applyEach order' ∧ t.applyEach order = t.applyAtOnce edits := by
  have horder := applyEach_of_perm h hdistinct hcontents ht
  have horder' := applyEach_of_perm h' hdistinct hcontents ht
  exact ⟨horder.trans horder'.symm, horder⟩

/-- Contents that are empty or have closing brackets, a placeholder without a name, and places that
end in the beginning of a placeholder. -/
theorem applyEach_any_order_brackets :
    let edits : Edits :=
      [(⟨['A'], by simp⟩, "]"), (⟨['A', 'B'], by simp⟩, ""), (⟨[], nofun⟩, "A]B]")]
    let t : Template :=
      { url := "x][A][AB]z[A", method := "PUT", body := "[x[]]"
        headers := [("[A]", "[AB]B][A]["), ("x", "")] }
    t.applyEach edits.reverse = t.applyEach edits ∧
      t.applyEach edits.reverse =
        { url := "x]]z[A", method := "PUT", body := "[xA]B]]"
          headers := [("[A]", "B]]["), ("x", "")] } := by
  intro edits t
  have hseamless : t.Seamless edits := ⟨by decide, by decide, by decide⟩
  obtain ⟨hsame, honce⟩ := applyEach_any_order edits.reverse_perm (.refl edits) (by decide)
    (by decide) hseamless
  exact ⟨hsame, honce.trans (by decide +kernel)⟩

end AlertRelay.Template
