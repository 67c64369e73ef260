import HeaderAbi.Proofs.Yaml.Node

/-!
# Reading written YAML

**A written YAML text is read back exactly when its nesting is within the limit**
(`resolve?_parse?_render`).  Unquoted scalars get back the types that they had: a text is written
without quotes only when it is not read as anything else, and the numeral of an integer is read as
that integer.
-/

namespace HeaderAbi.Yaml

open Data

/-! ### Documents -/

theorem document_words {f : String × Data} {fs : List (String × Data)} {fuel : Nat}
    (h : (object (f :: fs)).isWritten = true)
    (hfuel : 4 * (words false (.object (f :: fs))).length ≤ fuel) :
    ∃ m, document fuel (progress (words false (.object (f :: fs))) 0) =
      some (nodeOf (.object (f :: fs)), progress [] m) := by
  obtain ⟨m, hnode⟩ := node_words _ false fuel [] 0 h hfuel (endsDashes_false [])
  refine ⟨m, ?_⟩
  rw [List.append_nil] at hnode
  change (node true false fuel (progress (words false (.object (f :: fs))) 0)).bind _ = _
  rw [hnode]
  rfl

/-- **A written YAML text is parsed exactly when its nesting is within the limit.** -/
theorem parse?_render {f : String × Data} {fs : List (String × Data)}
    (h : (object (f :: fs)).isWritten = true) :
    parse? (render (.object (f :: fs))) =
      if nesting (.object (f :: fs)) ≤ depthLimit then some (asRead (.object (f :: fs)))
      else none := by
  have hfuel : 4 * (words false (.object (f :: fs))).length ≤
      8 * (words false (.object (f :: fs))).length + 8 := by omega
  obtain ⟨m, hdocument⟩ := document_words h hfuel
  rw [parse?, lex?_render h]
  change ((document (8 * (words false (.object (f :: fs))).length + 8))
    (progress (words false (.object (f :: fs))) 0)).bind _ = _
  rw [hdocument]
  -- Nothing is named, so no alias is followed and the second limit never applies.
  change (if (decide (nesting (.object (f :: fs)) > depthLimit) || decide (0 > copiesPerNode * m))
    then none else some (asRead (.object (f :: fs)))) = _
  by_cases hdeep : nesting (.object (f :: fs)) ≤ depthLimit
  · rw [if_pos hdeep, if_neg]
    simpa using hdeep
  · rw [if_neg hdeep, if_pos]
    simpa using Nat.lt_of_not_le hdeep

/-! ### Types of scalars -/

theorem eq_of_ofPlain?_text {s t : String} (h : ofPlain? s = some (.text t)) : t = s := by
  unfold ofPlain? at h
  repeat' split at h
  all_goals cases h
  all_goals rfl

theorem ofPlain?_of_isPlainText {s : String} (h : isPlainText s = true) :
    ofPlain? s = some (.text s) := by
  simp only [isPlainText, Bool.and_eq_true, Bool.not_eq_true'] at h
  have hother := h.2.1
  unfold readsAsOther at hother
  split at hother
  · rename_i t htext
    rw [htext, eq_of_ofPlain?_text htext]
  · cases hother

theorem hasRepeatedKey_fieldsAsYaml {fs : List (String × Data)} (h : areFields fs = true) :
    hasRepeatedKey (fieldsAsYaml fs) = false := by
  induction fs with
  | nil => rfl
  | cons f fs ih =>
    obtain ⟨k, d⟩ := f
    simp only [areFields, Bool.and_eq_true] at h
    obtain ⟨⟨⟨-, hnew⟩, -⟩, hfs⟩ := h
    have hfirst : (fieldsAsYaml fs).any (·.1.same (.text k)) = false := by
      rw [fieldsAsYaml_eq_map, List.any_map, List.any_eq_false]
      intro g hg
      have hne := List.all_eq_true.1 hnew g hg
      simpa [same] using hne
    rw [fieldsAsYaml, hasRepeatedKey, hfirst, ih hfs]
    rfl

mutual

/-- **What is read gets back the types that were written.** -/
theorem resolve?_asRead : ∀ {d : Data}, d.isWritten = true → (asRead d).resolve? = some d.asYaml
  | .null, _ => rfl
  | .bool b, _ => by cases b <;> rfl
  | .int n, h => by
    simp only [isWritten, Bool.and_eq_true, decide_eq_true_eq] at h
    exact ofPlain?_toString h.1 h.2
  | .text s, _ => by
    rw [asRead]
    split
    · rename_i hplain
      exact ofPlain?_of_isPlainText hplain
    · rfl
  | .list ds, h => by
    rw [asRead, resolve?, resolveList?_asRead h]
    rfl
  | .object fs, h => by
    rw [asRead, resolve?, resolveEntries?_asRead h]
    change (if hasRepeatedKey (fieldsAsYaml fs) then none else some (mapping (fieldsAsYaml fs))) = _
    rw [hasRepeatedKey_fieldsAsYaml h]
    rfl
  | .tagged tag content, h => by
    simp only [isWritten, Bool.and_eq_true] at h
    rw [asRead, resolve?, resolve?_asRead h.2]
    rfl

theorem resolveList?_asRead : ∀ {ds : List Data}, areWritten ds = true →
    resolveList? (listAsRead ds) = some (listAsYaml ds)
  | [], _ => rfl
  | d :: ds, h => by
    simp only [areWritten, Bool.and_eq_true] at h
    rw [listAsRead, resolveList?, resolve?_asRead h.1, resolveList?_asRead h.2]
    rfl

theorem resolveEntries?_asRead : ∀ {fs : List (String × Data)}, areFields fs = true →
    resolveEntries? (fieldsAsRead fs) = some (fieldsAsYaml fs)
  | [], _ => rfl
  | (k, d) :: fs, h => by
    simp only [areFields, Bool.and_eq_true] at h
    obtain ⟨⟨⟨hname, -⟩, hd⟩, hfs⟩ := h
    have hkey : (plain k).resolve? = some (.text k) :=
      ofPlain?_of_isPlainText (isPlainText_of_isName hname)
    rw [fieldsAsRead, resolveEntries?, hkey, resolve?_asRead hd, resolveEntries?_asRead hfs]
    rfl

end

/-- **A written YAML text is read back exactly when its nesting is within the limit.** -/
theorem resolve?_parse?_render {f : String × Data} {fs : List (String × Data)}
    (h : (object (f :: fs)).isWritten = true) :
    (parse? (render (.object (f :: fs)))).bind resolve? =
      if nesting (.object (f :: fs)) ≤ depthLimit then some (object (f :: fs)).asYaml
      else none := by
  rw [parse?_render h]
  split
  · exact resolve?_asRead h
  · rfl

end HeaderAbi.Yaml
