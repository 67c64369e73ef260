import HeaderAbi.Proofs.Extraction.Respelling
import HeaderAbi.Proofs.TypeRef.Identity

/-!
# The identifiers of extracted signatures

Types that are built from fundamental types and functions of the C convention are always mapped, and
the function types among them go by the spelling of their signature.  Their identifiers tell
everything of a signature but which function type a qualifier belongs to, and whether a function
type behind a pointer, a reference or an array has one at all.
-/

namespace HeaderAbi

open Extraction

/-- A type built from spellings of fundamental types and functions that name no convention, with any
decorations. -/
inductive TypeFact.Fundamental : TypeFact → Prop where
  | named {s : SpelledType} {name : String} (plain : s.templateArguments = [])
      (h : Builtin.canonicalName s.name = some name) : Fundamental (.named s)
  | function {s : SpelledType} {r : TypeFact} {ps : List TypeFact} {v : Bool} (hr : r.Fundamental)
      (hps : ∀ p ∈ ps, p.Fundamental) : Fundamental (.function s r ps v none)

/-- A signature that some such type is mapped to. -/
def Signature.Extracted (s : Signature) : Prop :=
  ∃ (unit owner : String) (fact : TypeFact) (t : TypeRef),
    fact.Fundamental ∧ typeRef unit owner fact = .ok t ∧ t.signature? = some s

variable {unit owner : String}

theorem exists_typeRefs {P : TypeRef → Prop} {facts : List TypeFact}
    (h : ∀ f ∈ facts, ∃ t, typeRef unit owner f = .ok t ∧ P t) :
    ∃ ts, typeRefs unit owner facts = .ok ts ∧ ∀ t ∈ ts, P t := by
  induction facts with
  | nil => exact ⟨[], rfl, List.forall_mem_nil _⟩
  | cons f facts ih =>
    rw [List.forall_mem_cons] at h
    obtain ⟨⟨t, ht, hP⟩, hfacts⟩ := h
    obtain ⟨ts, hts, hPs⟩ := ih hfacts
    exact ⟨t :: ts, by rw [typeRefs, ht, hts]; rfl, List.forall_mem_cons.2 ⟨hP, hPs⟩⟩

/-- **Such types are always mapped**, and then function types go by their spelling. -/
theorem TypeFact.Fundamental.exists_typeRef {fact : TypeFact} (h : fact.Fundamental)
    (unit owner : String) : ∃ t, typeRef unit owner fact = .ok t ∧ t.Canonical := by
  induction h with
  | @named s name plain hname =>
    have huid : typeUid unit owner s = .ok ⟨name⟩ := by
      have hblank := Builtin.trim_isEmpty_of_canonicalName hname
      simp [typeUid, plain, hblank, hname]
    exact ⟨_, by rw [typeRef, huid]; rfl, .named (Spelling.isName_of_canonicalName hname)⟩
  | @function s r ps v _ _ hr hps =>
    obtain ⟨r', hr', hresult⟩ := hr
    obtain ⟨ps', hps', hparameters⟩ := exists_typeRefs hps
    exact ⟨_, by rw [typeRef, hr', hps']; rfl, .function rfl hresult hparameters⟩

namespace Signature

open TypeRef

variable {s t : Signature}

theorem Extracted.canonical (h : s.Extracted) : (ofSignature s).Canonical := by
  obtain ⟨unit, owner, fact, t, hfact, ht, hs⟩ := h
  obtain ⟨t', ht', hcanonical⟩ := hfact.exists_typeRef unit owner
  obtain rfl := Except.ok.inj (ht.symm.trans ht')
  cases hcanonical with
  | named => cases hs
  | function _ hr hps =>
    obtain rfl := Option.some.inj hs
    exact .function rfl hr hps

/-- **What the identifier of a signature tells.**  Two signatures share it exactly when they are
spelled alike, and they are equal exactly when moreover their function types have the same
qualifiers; where no function type has any, the identifier alone decides. -/
theorem uid_eq_iff_of_extracted (hs : s.Extracted) (ht : t.Extracted) :
    (s.uid = t.uid ↔ s.Alike t) ∧
      (s = t ↔ s.uid = t.uid ∧ s.functionQualifiers = t.functionQualifiers) ∧
      ((∀ q ∈ s.functionQualifiers, q = {}) → (∀ q ∈ t.functionQualifiers, q = {}) →
        (s.uid = t.uid ↔ s = t)) :=
  ⟨uid_eq_iff_alike hs.canonical ht.canonical, eq_iff_uid_eq hs.canonical ht.canonical,
    uid_eq_iff_of_unqualified hs.canonical ht.canonical⟩

/-- A handler takes the address of a function from `int` to `void`, of a type so qualified. -/
def handlerFact (q : Qualifiers) : TypeFact :=
  .ofSignature {
    result := .ofName "void"
    parameters := [.function { qualifiers := q, indirection := [.pointer {}] } (.ofName "void")
      [.ofName "int"] false none] }

/-- The signature of a handler. -/
def handler (q : Qualifiers) : Signature where
  result := .ofName "void"
  parameters := [.function ⟨⟨"void (int)"⟩, q, [.pointer {}], []⟩ (.ofName "void") [.ofName "int"]
    false .cdecl]

theorem extracted_handler (q : Qualifiers) : (handler q).Extracted := by
  have hnamed : ∀ name ∈ ["void", "int"], (TypeFact.ofName name).Fundamental := by
    intro name hname
    rcases List.mem_pair.1 hname with rfl | rfl
    · exact .named rfl rfl
    · exact .named rfl rfl
  have hvoid := hnamed "void" (by decide)
  have hcallback : TypeFact.Fundamental (.function { qualifiers := q, indirection := [.pointer {}] }
      (.ofName "void") [.ofName "int"] false none) :=
    .function hvoid (List.forall_mem_singleton.2 (hnamed "int" (by decide)))
  exact ⟨"a.h", "visit", handlerFact q, ofSignature (handler q),
    .function hvoid (List.forall_mem_singleton.2 hcallback), rfl, rfl⟩

theorem handler_alike : (handler {}).Extracted ∧ (handler { isConst := true }).Extracted ∧
    (handler {}).Alike (handler { isConst := true }) := by
  have h := extracted_handler {}
  have h' := extracted_handler { isConst := true }
  exact ⟨h, h', (uid_eq_iff_of_extracted h h').1.1 rfl⟩

/-- Different signatures may share their identifier. -/
theorem exists_uid_shared : ∃ s t : Signature, s.Extracted ∧ t.Extracted ∧ s.uid = t.uid ∧
    s ≠ t :=
  ⟨handler {}, handler { isConst := true }, extracted_handler _, extracted_handler _, rfl,
    by decide⟩

end Signature

end HeaderAbi
