import BaseApi.Command.Run
import BaseApi.Proofs.Fallible

/-!
# What a conversion makes of a schema file

`ConvertRequest.Renders` says which text a conversion makes of the content of its schema file: the
document of the schema, or the value in the file without embedded tables. Neither the output nor
the verbosity has a say in it. Main statement: `ConvertRequest.render_eq_ok_iff`.
-/

namespace BaseApi

/-- The text that a conversion makes of the content of a schema file. -/
inductive ConvertRequest.Renders (request : ConvertRequest) (content : String) : String → Prop where
  /-- The value in the file, without embedded tables. -/
  | airtable {value : Json} (format : request.format = .airtable)
      (parsed : Json.parse content = .ok value) :
      Renders request content
        (Json.write (if request.isCompact then .compact else .pretty) value.withoutForeignTables)
  /-- The document of the schema, for which nothing but the method of updates is chosen. -/
  | openApi {value : Json} {schema : BaseSchema} {document : Document}
      (format : request.format = .openApi) (parsed : Json.parse content = .ok value)
      (loaded : BaseSchema.loadJson value = .ok schema)
      (built : schema.document { updateMethod := request.updateMethod } = .ok document) :
      Renders request content
        (Json.write (if request.isCompact then .compact else .pretty) document.toJson)

theorem schemaValue_eq_ok_iff {path text : String} {value : Json} :
    schemaValue path text = .ok value ↔ Json.parse text = .ok value := by
  unfold schemaValue
  split
  · next parsed => simp [parsed]
  · next failed => simp [failed]

theorem resolvedBaseOf_eq_ok_iff {value : Json} {base : ResolvedBase} :
    resolvedBaseOf value = .ok base ↔
      ∃ schema, BaseSchema.loadJson value = .ok schema ∧ schema.resolve = .ok base := by
  unfold resolvedBaseOf
  split
  · next failed => simp [failed]
  · next schema loaded =>
      split
      · next failed => simp [loaded, failed]
      · next resolved => simp [loaded, resolved]

namespace ConvertRequest

variable {request : ConvertRequest} {isVerbose : Bool} {content text : String}

theorem layout_eq (request : ConvertRequest) :
    request.layout = if request.isCompact then .compact else .pretty := by
  unfold layout Json.Layout.choose
  cases request.isCompact <;> rfl

/-- The status lines of a conversion, and the text that it makes of the content of a schema file or
the reason why there is none. -/
def render (request : ConvertRequest) (isVerbose : Bool) (content : String) :
    String × Except Report String :=
  (request.converted isVerbose content).map id (Except.map request.textOf)

theorem snd_render_eq_ok_iff :
    (request.render isVerbose content).2 = .ok text ↔
      ∃ made, (request.converted isVerbose content).2 = .ok made ∧ request.textOf made = text :=
  Fallible.map_eq_ok_iff

/-- A conversion makes the text of a schema file that it should, and fails if there is none. -/
theorem render_eq_ok_iff :
    (request.render isVerbose content).2 = .ok text ↔ request.Renders content text := by
  rw [snd_render_eq_ok_iff]
  constructor
  · rintro ⟨made, converts, rfl⟩
    unfold converted at converts
    split at converts
    · cases converts
    · next value parsed =>
        rw [schemaValue_eq_ok_iff] at parsed
        split at converts
        · next format =>
            cases converts
            rw [textOf, layout_eq]
            exact .airtable format parsed
        · next format =>
            split at converts
            · cases converts
            · next base resolved =>
                cases converts
                obtain ⟨schema, loaded, resolved⟩ := resolvedBaseOf_eq_ok_iff.mp resolved
                have built : schema.document { updateMethod := request.updateMethod } =
                    .ok (base.document request.options) := by
                  rw [BaseSchema.document, resolved]
                  rfl
                rw [textOf, ResolvedBase.documentText, ← layout, layout_eq]
                exact .openApi format parsed loaded built
  · intro renders
    unfold converted
    cases renders with
    | @airtable value format parsed =>
        rw [schemaValue_eq_ok_iff.mpr parsed, format, ← layout_eq]
        exact ⟨.airtable value.withoutForeignTables, rfl, rfl⟩
    | openApi format parsed loaded built =>
        obtain ⟨base, resolved, generated⟩ := Fallible.bind_eq_ok_iff.mp built
        obtain rfl := Fallible.pure_eq_ok_iff.mp generated
        rw [schemaValue_eq_ok_iff.mpr parsed, format, ← layout_eq]
        dsimp only
        rw [resolvedBaseOf_eq_ok_iff.mpr ⟨_, loaded, resolved⟩]
        exact ⟨.openApi base, rfl, rfl⟩

theorem Renders.unique {other : String} (first : request.Renders content text)
    (second : request.Renders content other) : text = other := by
  have same := (@render_eq_ok_iff request false content text).mpr first
  rw [render_eq_ok_iff.mpr second] at same
  exact (Except.ok.inj same).symm

theorem renders_of_converted {status : String} {made : Converted}
    (converts : request.converted isVerbose content = (status, .ok made)) :
    request.Renders content (request.textOf made) :=
  render_eq_ok_iff.mp (snd_render_eq_ok_iff.mpr ⟨made, congrArg Prod.snd converts, rfl⟩)

theorem not_renders_of_converted {status : String} {report : Report}
    (fails : request.converted isVerbose content = (status, .error report)) :
    ¬ request.Renders content text := by
  intro renders
  obtain ⟨made, converts, -⟩ :=
    snd_render_eq_ok_iff.mp ((@render_eq_ok_iff request isVerbose content text).mpr renders)
  rw [fails] at converts
  cases converts

/-- The text does not depend on where it goes. -/
theorem renders_withOutput {output : Option String} :
    { request with output }.Renders content text ↔ request.Renders content text := by
  constructor
  · rintro (⟨format, parsed⟩ | ⟨format, parsed, loaded, built⟩)
    · exact .airtable format parsed
    · exact .openApi format parsed loaded built
  · rintro (⟨format, parsed⟩ | ⟨format, parsed, loaded, built⟩)
    · exact @Renders.airtable { request with output } content _ format parsed
    · exact @Renders.openApi { request with output } content _ _ _ format parsed loaded built

/-- Only the status lines depend on the verbosity. -/
theorem snd_converted_congr (request : ConvertRequest) (isVerbose otherwise : Bool)
    (content : String) :
    (request.converted isVerbose content).2 = (request.converted otherwise content).2 := by
  unfold converted
  split
  · rfl
  · split
    · rfl
    · split <;> rfl

end ConvertRequest

end BaseApi
