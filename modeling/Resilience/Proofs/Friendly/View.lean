import Resilience.Friendly.Terminal

/-!
# What of a failure is seen

A translation reads some fields of a failure and, along the chain of its causes, codes and messages
(`Failure.LooksLike`); in development it reads the stack of the failure as well. Two failures that
agree there are told alike (`Translator.translate_indifferent`).
-/

namespace Resilience

/-- Two failures that differ at most in their names, times, stacks, inner errors and errors from
outside, and in what their causes are besides codes and messages. -/
structure Failure.LooksLike (f g : Failure) : Prop where
  code : f.code = g.code
  message : f.message = g.message
  category : f.category = g.category
  severity : f.severity = g.severity
  operation : f.operation = g.operation
  resource : f.resource = g.resource
  retryCount : f.retryCount = g.retryCount
  context : f.context = g.context
  chain : f.chain.map (fun c => (c.code, c.message)) = g.chain.map fun c => (c.code, c.message)

namespace Failure.LooksLike

variable {f g : Failure}

theorem chain_codes (h : f.LooksLike g) : f.chain.map (·.code) = g.chain.map (·.code) := by
  simpa [Function.comp_def] using congrArg (List.map Prod.fst) h.chain

theorem chain_messages (h : f.LooksLike g) : f.chain.map (·.message) = g.chain.map (·.message) := by
  simpa [Function.comp_def] using congrArg (List.map Prod.snd) h.chain

end Failure.LooksLike

/-- What is told of a failure does not hang on the failure that is kept for the log. -/
theorem Friendly.toJson_failure (told : Friendly) (f : Failure) :
    { told with failure := f }.toJson = told.toJson := rfl

theorem Terminal.render_failure (theme : Theme) (color : Bool) (told : Friendly) (f : Failure) :
    render theme color { told with failure := f } = render theme color told := rfl

namespace Translator

variable {f g : Failure}

/-- The key is found in the codes of the chain, or else in its messages. -/
theorem classify_eq (t : Translator) (f : Failure) : t.classify f =
    match (f.chain.map (·.code)).find? t.catalog.contains with
    | some code => code
    | none =>
      match (f.chain.map (·.message)).findSome? (Rule.classify t.rules) with
      | some key => if t.catalog.contains key then key else Catalog.unknownKey
      | none => Catalog.unknownKey := by
  rw [classify, List.find?_map, List.findSome?_map]
  simp only [Function.comp_def]
  cases f.chain.find? fun g => t.catalog.contains g.code with
  | some g => rfl
  | none => cases f.chain.findSome? fun g => Rule.classify t.rules g.message <;> rfl

theorem classify_congr (t : Translator) (h : f.LooksLike g) : t.classify f = t.classify g := by
  rw [classify_eq, classify_eq, h.chain_codes, h.chain_messages]

theorem context_congr (s : Situation) (h : f.LooksLike g) : context f s = context g s := by
  have hmessages (f : Failure) : (f.chain.findSome? fun c => Scrub.firstFileName? c.message) =
      (f.chain.map (·.message)).findSome? Scrub.firstFileName? := by
    rw [List.findSome?_map]
    rfl
  rw [context, context, hmessages, hmessages, h.chain_messages, h.operation, h.resource,
    h.retryCount, h.context]

theorem technical_congr (t : Translator) (h : f.LooksLike g)
    (hstack : t.environment = .production ∨ f.stack = g.stack) : t.technical f = t.technical g := by
  rw [technical, technical, h.code, h.message]
  rcases hstack with henv | hstack
  · rw [henv]
  · rw [hstack]

theorem translate_congr (t : Translator) (s : Situation) (h : f.LooksLike g)
    (hstack : t.environment = .production ∨ f.stack = g.stack) :
    t.translate g s = { t.translate f s with failure := g } := by
  simp only [translate, t.classify_congr h, context_congr s h, t.technical_congr h hstack, h.code,
    h.category, h.severity]

/-- Two failures that look alike are told alike; in development they must have the same stack. -/
theorem translate_indifferent (t : Translator) (f g : Failure) (s : Situation)
    (h : f.LooksLike g) (hstack : t.environment = .production ∨ f.stack = g.stack) :
    (t.translate f s).toJson = (t.translate g s).toJson ∧
      ∀ theme color, Terminal.render theme color (t.translate f s) =
        Terminal.render theme color (t.translate g s) := by
  rw [translate_congr t s h hstack]
  exact ⟨(Friendly.toJson_failure _ g).symm, fun theme color =>
    (Terminal.render_failure theme color _ g).symm⟩

/-- An upload that was refused, as the process that made it knows it. -/
def refusal : Failure :=
  { Failure.make default "upload failed" "UPLOAD_FAILED" .website with
    name := "UploadError"
    inner := [Failure.make default "no answer" "ETIMEDOUT" .network]
    cause := .failure
      { Failure.make default "connection refused" "SOCKET" .network with
        cause := .native "os error 111" }
    stack := some "at upload (/home/dana/site/upload:10)" }

/-- The same upload, with other causes of the same codes and messages. -/
def refusalElsewhere : Failure :=
  { Failure.make ⟨1, 0, by decide⟩ "upload failed" "UPLOAD_FAILED" .website with
    cause := .failure
      { Failure.make default "connection refused" "SOCKET" .system with
        resource := some "/home/dana/site"
        stack := some "at connect" } }

theorem refusal_looksLike : refusal.LooksLike refusalElsewhere :=
  ⟨rfl, rfl, rfl, rfl, rfl, rfl, rfl, rfl, rfl⟩

theorem translate_indifferent_refusal :
    refusal.LooksLike refusalElsewhere ∧ refusal.stack ≠ refusalElsewhere.stack ∧
    (({} : Translator).translate refusal {}).toJson =
      (({} : Translator).translate refusalElsewhere {}).toJson ∧
    (({ environment := .development } : Translator).translate refusal {}).toJson =
      (({ environment := .development } : Translator).translate
        { refusalElsewhere with stack := refusal.stack } {}).toJson := by
  refine ⟨refusal_looksLike, by decide, ?_, ?_⟩
  · exact (translate_indifferent {} _ _ {} refusal_looksLike (.inl rfl)).1
  · exact (translate_indifferent { environment := .development } _ _ {}
      ⟨rfl, rfl, rfl, rfl, rfl, rfl, rfl, rfl, rfl⟩ (.inr rfl)).1

end Translator

end Resilience
