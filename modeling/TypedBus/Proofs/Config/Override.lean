import TypedBus.Config.Environment
import TypedBus.Proofs.Config.Fields
import TypedBus.Proofs.Text.Words

namespace TypedBus.Config

namespace Field

variable {f : Field} {text : String} {e : ConfigError}

/-- The variable that overrides a field. -/
def key : Field → String
  | domain => "UMUNDO_DOMAIN"
  | queueCapacity => "UMUNDO_QUEUE_CAPACITY"
  | maxPayloadSize => "UMUNDO_MAX_PAYLOAD_SIZE"
  | wireEncoding => "UMUNDO_WIRE_ENCODING"
  | duplicatePolicy => "UMUNDO_DUPLICATE_POLICY"
  | autoRegister => "UMUNDO_AUTO_REGISTER_TYPES"

def order : List Field :=
  [domain, queueCapacity, maxPayloadSize, wireEncoding, duplicatePolicy, autoRegister]

/-- What a text says for a field. -/
def Reads : (f : Field) → String → f.Value → Prop
  | domain, text, name => text = name
  | queueCapacity, text, n | maxPayloadSize, text, n => Text.Numeral text n.toNat
  | wireEncoding, text, b | autoRegister, text, b => text = Text.ofBool b
  | duplicatePolicy, text, policy => Text.Spells text policy.name

def shown : (f : Field) → f.Value → String
  | domain, name => name
  | queueCapacity, n | maxPayloadSize, n => n.toNat.repr
  | wireEncoding, b | autoRegister, b => Text.ofBool b
  | duplicatePolicy, policy => policy.name

/-- What is said of a text that says nothing for a field, which never happens to a domain. -/
def complaint (f : Field) (text : String) : String :=
  match f with
  | domain | queueCapacity | maxPayloadSize => s!"{f.key} 必须是有效的 usize 数字"
  | wireEncoding | autoRegister => s!"{f.key} 必须是 true 或 false"
  | duplicatePolicy =>
    let word := Text.lowerAscii (Text.trimBlanks text)
    let reason := ConfigError.parse s!"未知的重复注册策略: {word} (可选 overwrite / reject)"
    s!"{f.key}: {reason.message}"

/-- Why a text is refused for a field. -/
def Refuses (f : Field) (text : String) (e : ConfigError) : Prop :=
  (∀ x, ¬ f.Reads text x) ∧ e = .environment (f.complaint text)

def read : (f : Field) → String → Except ConfigError f.Value
  | domain, text => .ok text
  | queueCapacity, text => readWord queueCapacity.key text
  | maxPayloadSize, text => readWord maxPayloadSize.key text
  | wireEncoding, text => readBool wireEncoding.key text
  | duplicatePolicy, text => readPolicy duplicatePolicy.key text
  | autoRegister, text => readBool autoRegister.key text

end Field

theorem readWord_eq_ok_iff {name text : String} {n : UInt64} :
    readWord name text = .ok n ↔ Text.Numeral text n.toNat := by
  rw [← Text.word?_eq_some_iff, readWord]
  cases Text.word? text <;> simp

theorem readBool_eq_ok_iff {name text : String} {b : Bool} :
    readBool name text = .ok b ↔ text = Text.ofBool b := by
  rw [← Text.bool?_eq_some_iff, readBool]
  cases Text.bool? text <;> simp

theorem ofName?_eq_some_iff {word : String} {policy : DuplicatePolicy} :
    DuplicatePolicy.ofName? word = some policy ↔ word = policy.name := by
  unfold DuplicatePolicy.ofName?
  split
  · cases policy <;> simp [DuplicatePolicy.name]
  · cases policy <;> simp [DuplicatePolicy.name]
  · rename_i hoverwrite hreject
    cases policy with
    | overwrite => exact iff_of_false (by simp) hoverwrite
    | reject => exact iff_of_false (by simp) hreject

theorem spells_name_iff {text : String} {policy : DuplicatePolicy} :
    Text.Spells text policy.name ↔ Text.lowerAscii (Text.trimBlanks text) = policy.name := by
  have hnamed : policy.name ≠ "" := by cases policy <;> decide
  have hunblank : policy.name.toList.all (!Text.isBlank ·) = true := by cases policy <;> decide
  exact Text.spells_iff hnamed fun c hc => Bool.not_inj (List.all_eq_true.mp hunblank c hc)

theorem readPolicy_eq_ok_iff {name text : String} {policy : DuplicatePolicy} :
    readPolicy name text = .ok policy ↔ Text.Spells text policy.name := by
  rw [spells_name_iff, ← ofName?_eq_some_iff, readPolicy, DuplicatePolicy.parse]
  cases DuplicatePolicy.ofName? (Text.lowerAscii (Text.trimBlanks text)) <;> simp

namespace Field

variable {f : Field} {text : String} {e : ConfigError}

theorem read_eq_ok_iff {x : f.Value} : f.read text = .ok x ↔ f.Reads text x := by
  cases f with
  | domain => simp only [read, Reads, Except.ok.injEq]
  | queueCapacity | maxPayloadSize =>
    simp only [read, Reads]
    exact readWord_eq_ok_iff
  | wireEncoding | autoRegister =>
    simp only [read, Reads]
    exact readBool_eq_ok_iff
  | duplicatePolicy =>
    simp only [read, Reads]
    exact readPolicy_eq_ok_iff

theorem Reads.unique {x y : f.Value} (hx : f.Reads text x) (hy : f.Reads text y) : x = y :=
  Except.ok.inj ((read_eq_ok_iff.mpr hx).symm.trans (read_eq_ok_iff.mpr hy))

/-- A text is read, or its variable is complained about. -/
theorem read_cases (f : Field) (text : String) :
    (∃ x, f.read text = .ok x) ∨ f.read text = .error (.environment (f.complaint text)) := by
  cases f with
  | domain => exact .inl ⟨text, rfl⟩
  | queueCapacity | maxPayloadSize =>
    simp only [read, readWord]
    cases Text.word? text with
    | none => exact .inr rfl
    | some n => exact .inl ⟨n, rfl⟩
  | wireEncoding | autoRegister =>
    simp only [read, readBool]
    cases Text.bool? text with
    | none => exact .inr rfl
    | some b => exact .inl ⟨b, rfl⟩
  | duplicatePolicy =>
    simp only [read, readPolicy, DuplicatePolicy.parse]
    cases DuplicatePolicy.ofName? (Text.lowerAscii (Text.trimBlanks text)) with
    | none => exact .inr rfl
    | some policy => exact .inl ⟨policy, rfl⟩

theorem read_eq_error_iff : f.read text = .error e ↔ f.Refuses text e := by
  unfold Refuses
  rcases f.read_cases text with ⟨x, hread⟩ | hread
  · rw [hread]
    exact iff_of_false nofun fun h => h.1 x (read_eq_ok_iff.mp hread)
  · rw [hread, Except.error.injEq, eq_comm, iff_and_self]
    intro _ x hx
    exact nomatch hread.symm.trans (read_eq_ok_iff.mpr hx)

theorem reads_shown (f : Field) (x : f.Value) : f.Reads (f.shown x) x := by
  cases f with
  | domain | wireEncoding | autoRegister => rfl
  | queueCapacity | maxPayloadSize => exact Text.numeral_repr _
  | duplicatePolicy =>
    rw [Reads, shown, spells_name_iff]
    cases x <;> decide

end Field

/-- What becomes of a field: what its variable says, or if that is not set what is there. -/
def Follows (env : Environment) (c r : Config) (f : Field) : Prop :=
  match env f.key with
  | none => f.get r = f.get c
  | some text => f.Reads text (f.get r)

/-- A variable that is set says something. -/
def Readable (env : Environment) (f : Field) : Prop :=
  ∀ text, env f.key = some text → ∃ x, f.Reads text x

/-- The configuration with one field overridden. -/
def overrideField (env : Environment) (c : Config) (f : Field) : Except ConfigError Config :=
  (f.set · c) <$> fieldFrom (env f.key) f.read (f.get c)

variable {env : Environment} {c r : Config} {f : Field} {e : ConfigError} {l : List Field}

/-- The fields are overridden one after the other. -/
theorem overrideFrom_eq (c : Config) (env : Environment) :
    c.overrideFrom env = Field.order.foldlM (overrideField env) c := by
  have hdomain : overrideField env c .domain =
      .ok (Field.domain.set ((env "UMUNDO_DOMAIN").getD c.transport.domain) c) := by
    change (Field.domain.set · c) <$> fieldFrom (env "UMUNDO_DOMAIN") _ _ = _
    cases env "UMUNDO_DOMAIN" <;> rfl
  rw [Field.order, List.foldlM_cons, hdomain]
  simp only [List.foldlM_cons, List.foldlM_nil, overrideField, bind_map_left]
  rfl

theorem Field.Refuses.not_readable {text : String} (h : f.Refuses text e)
    (hkey : env f.key = some text) : ¬ Readable env f := by
  intro hreadable
  obtain ⟨x, hx⟩ := hreadable text hkey
  exact h.1 x hx

namespace Follows

theorem readable (h : Follows env c r f) : Readable env f := by
  intro text htext
  rw [Follows, htext] at h
  exact ⟨_, h⟩

theorem unique {r' : Config} (h : Follows env c r f) (h' : Follows env c r' f) :
    f.get r = f.get r' := by
  unfold Follows at h h'
  cases hkey : env f.key with
  | none =>
    rw [hkey] at h h'
    exact h.trans h'.symm
  | some text =>
    rw [hkey] at h h'
    exact Field.Reads.unique h h'

theorem congr {c' r' : Config} (h : Follows env c r f) (hc : f.get c = f.get c')
    (hr : f.get r = f.get r') : Follows env c' r' f := by
  unfold Follows at h ⊢
  rwa [hc, hr] at h

end Follows

/-- A field follows its variable and the others stay, or the variable is refused. -/
theorem overrideField_cases (env : Environment) (c : Config) (f : Field) :
    (∃ r, overrideField env c f = .ok r ∧ Follows env c r f ∧ ∀ g, g ≠ f → g.get r = g.get c) ∨
    ∃ text e, overrideField env c f = .error e ∧ env f.key = some text ∧ f.Refuses text e := by
  unfold overrideField Follows
  cases hkey : env f.key with
  | none =>
    refine .inl ⟨c, ?_, rfl, fun _ _ => rfl⟩
    exact congrArg Except.ok (f.set_get c)
  | some text =>
    rw [fieldFrom]
    rcases f.read_cases text with ⟨x, hread⟩ | hread
    · refine .inl ⟨f.set x c, ?_, ?_, fun g hg => Field.get_set_of_ne hg x c⟩
      · rw [hread]
        rfl
      · simpa using Field.read_eq_ok_iff.mp hread
    · refine .inr ⟨text, _, ?_, rfl, Field.read_eq_error_iff.mp hread⟩
      rw [hread]
      rfl

theorem overrideField_eq_error_iff : overrideField env c f = .error e ↔
    ∃ text, env f.key = some text ∧ f.Refuses text e := by
  obtain ⟨r, h, hfollows, -⟩ | ⟨text, e', h, hkey, hrefuses⟩ := overrideField_cases env c f
  · refine iff_of_false (fun he => nomatch h.symm.trans he) ?_
    rintro ⟨text, hkey, hrefuses⟩
    exact hrefuses.not_readable hkey hfollows.readable
  · rw [h, Except.error.injEq]
    constructor
    · rintro rfl
      exact ⟨text, hkey, hrefuses⟩
    · rintro ⟨text', hkey', hrefuses'⟩
      obtain rfl := Option.some.inj (hkey.symm.trans hkey')
      exact hrefuses.2.trans hrefuses'.2.symm

/-- Different fields do not disturb each other. -/
theorem foldlM_overrideField_eq_ok_iff (hl : l.Nodup) : l.foldlM (overrideField env) c = .ok r ↔
    (∀ f ∈ l, Follows env c r f) ∧ ∀ f, f ∉ l → f.get r = f.get c := by
  induction l generalizing c with
  | nil =>
    constructor
    · rintro h
      cases h
      exact ⟨nofun, fun _ _ => rfl⟩
    · rintro ⟨-, hsame⟩
      exact congrArg Except.ok (Field.ext_get fun f => (hsame f List.not_mem_nil).symm)
  | cons f l ih =>
    obtain ⟨hf, hl⟩ := List.nodup_cons.mp hl
    rw [List.foldlM_cons]
    obtain ⟨c', h, hhere, hothers⟩ | ⟨text, e, h, hkey, hrefuses⟩ := overrideField_cases env c f
    · have hne : ∀ g ∈ l, g ≠ f := fun g hg he => hf (he ▸ hg)
      rw [h]
      -- no field comes twice, so the later ones leave what this one has brought
      refine (ih hl).trans ⟨?_, ?_⟩
      · rintro ⟨hall, hrest⟩
        refine ⟨?_, ?_⟩
        · intro g hg
          rcases List.mem_cons.mp hg with rfl | hg
          · exact hhere.congr rfl (hrest g hf).symm
          · exact (hall g hg).congr (hothers g (hne g hg)) rfl
        · intro g hg
          rw [List.mem_cons, not_or] at hg
          exact (hrest g hg.2).trans (hothers g hg.1)
      · rintro ⟨hall, hrest⟩
        refine ⟨?_, ?_⟩
        · intro g hg
          exact (hall g (List.mem_cons_of_mem f hg)).congr (hothers g (hne g hg)).symm rfl
        · intro g hg
          by_cases hgf : g = f
          · subst hgf
            exact (hall g List.mem_cons_self).unique hhere
          · rw [hothers g hgf]
            exact hrest g (by simp [hgf, hg])
    · rw [h]
      refine iff_of_false nofun fun hall => ?_
      exact hrefuses.not_readable hkey (hall.1 f List.mem_cons_self).readable

/-- The first field whose variable is refused decides, whatever comes behind it. -/
theorem foldlM_overrideField_eq_error_iff : l.foldlM (overrideField env) c = .error e ↔
    ∃ before f after text, l = before ++ f :: after ∧ (∀ g ∈ before, Readable env g) ∧
      env f.key = some text ∧ f.Refuses text e := by
  induction l generalizing c with
  | nil => exact iff_of_false nofun (by simp)
  | cons f l ih =>
    rw [List.foldlM_cons]
    obtain ⟨c', h, hhere, -⟩ | ⟨text, e', h, hkey, hrefuses⟩ := overrideField_cases env c f
    · rw [h]
      refine (ih (c := c')).trans ⟨?_, ?_⟩
      · rintro ⟨before, g, after, text, rfl, hbefore, hg⟩
        exact ⟨f :: before, g, after, text, rfl, List.forall_mem_cons.mpr ⟨hhere.readable, hbefore⟩, hg⟩
      · rintro ⟨before, g, after, text, hl, hbefore, hkey, hrefuses⟩
        cases before with
        | nil =>
          obtain ⟨rfl, -⟩ := List.cons.inj hl
          exact absurd hhere.readable (hrefuses.not_readable hkey)
        | cons f' before =>
          obtain ⟨rfl, rfl⟩ := List.cons.inj hl
          exact ⟨before, g, after, text, rfl, (List.forall_mem_cons.mp hbefore).2, hkey, hrefuses⟩
    · rw [h]
      change Except.error e' = Except.error e ↔ _
      rw [← h, overrideField_eq_error_iff]
      constructor
      · rintro ⟨text, hkey, hrefuses⟩
        exact ⟨[], f, l, text, rfl, nofun, hkey, hrefuses⟩
      · rintro ⟨before, g, after, text', hl, hbefore, hkey', hrefuses'⟩
        cases before with
        | nil =>
          obtain ⟨rfl, -⟩ := List.cons.inj hl
          exact ⟨text', hkey', hrefuses'⟩
        | cons f' before =>
          obtain ⟨rfl, -⟩ := List.cons.inj hl
          exact absurd (hbefore f List.mem_cons_self) (hrefuses.not_readable hkey)

/-- The environment in which the variables of some fields show what a configuration has there. -/
def showing (c : Config) (chosen : Field → Bool) : Environment := fun key =>
  (Field.order.find? fun f => f.key = key && chosen f).map fun f => f.shown (f.get c)

theorem showing_key (c : Config) (chosen : Field → Bool) (f : Field) :
    showing c chosen f.key = if chosen f then some (f.shown (f.get c)) else none := by
  cases f <;> simp [showing, Field.order, Field.key] <;> split <;> simp_all

theorem mem_order (f : Field) : f ∈ Field.order := by
  cases f <;> decide

theorem follows_showing {base : Config} {chosen : Field → Bool} :
    Follows (showing c chosen) base r f ↔ f.get r = if chosen f then f.get c else f.get base := by
  unfold Follows
  rw [showing_key]
  by_cases hf : chosen f = true
  · simp only [hf, if_true]
    exact ⟨fun h => Field.Reads.unique h (f.reads_shown _), fun h => h ▸ f.reads_shown _⟩
  · simp only [hf, Bool.false_eq_true, if_false]

/-- A configuration is overridden where variables are set, and there alone. -/
theorem overrideFrom_eq_ok_iff : c.overrideFrom env = .ok r ↔ ∀ f, Follows env c r f := by
  rw [overrideFrom_eq, foldlM_overrideField_eq_ok_iff (by decide)]
  constructor
  · exact fun h f => h.1 f (mem_order f)
  · exact fun h => ⟨fun f _ => h f, fun f hf => absurd (mem_order f) hf⟩

theorem overrideFrom_eq_error_iff : c.overrideFrom env = .error e ↔
    ∃ before f after text, Field.order = before ++ f :: after ∧ (∀ g ∈ before, Readable env g) ∧
      env f.key = some text ∧ f.Refuses text e := by
  rw [overrideFrom_eq, foldlM_overrideField_eq_error_iff]

theorem exists_overrideFrom_iff (c : Config) :
    (∃ r, c.overrideFrom env = .ok r) ↔ ∀ f, Readable env f := by
  constructor
  · rintro ⟨r, hr⟩ f
    exact (overrideFrom_eq_ok_iff.mp hr f).readable
  · intro h
    cases hr : c.overrideFrom env with
    | ok r => exact ⟨r, rfl⟩
    | error e =>
      obtain ⟨-, f, -, text, -, -, hkey, hrefuses⟩ := overrideFrom_eq_error_iff.mp hr
      exact absurd (h f) (hrefuses.not_readable hkey)

theorem overrideFrom_overrideFrom (c : Config) (env : Environment) :
    (c.overrideFrom env >>= fun r => r.overrideFrom env) = c.overrideFrom env := by
  cases hr : c.overrideFrom env with
  | error e => rfl
  | ok r =>
    refine overrideFrom_eq_ok_iff.mpr fun f => ?_
    have hf := overrideFrom_eq_ok_iff.mp hr f
    unfold Follows at hf ⊢
    cases hkey : env f.key with
    | none => rfl
    | some text => rwa [hkey] at hf

/-- An environment overrides a configuration if all variables that are set can be read; then the fields
have the values that they say, and the others stay. Else the first variable that cannot be read fails the
whole. So variables that show another configuration, or some of it, bring exactly that over, and what has
been overridden is not changed by the same environment again. -/
theorem environment_overrides_exactly (c : Config) (env : Environment) :
    (∀ r, c.overrideFrom env = .ok r ↔ ∀ f, Follows env c r f) ∧
    ((∃ r, c.overrideFrom env = .ok r) ↔ ∀ f, Readable env f) ∧
    (∀ e, c.overrideFrom env = .error e ↔
      ∃ before f after text, Field.order = before ++ f :: after ∧ (∀ g ∈ before, Readable env g) ∧
        env f.key = some text ∧ f.Refuses text e) ∧
    (∀ other chosen, ∃ r, c.overrideFrom (showing other chosen) = .ok r ∧
      ∀ f : Field, f.get r = if chosen f then f.get other else f.get c) ∧
    (∀ other, c.overrideFrom (showing other fun _ => true) = .ok other) ∧
    (c.overrideFrom env >>= fun r => r.overrideFrom env) = c.overrideFrom env := by
  refine ⟨fun _ => overrideFrom_eq_ok_iff, exists_overrideFrom_iff c,
    fun _ => overrideFrom_eq_error_iff, ?_, ?_, overrideFrom_overrideFrom c env⟩
  · intro other chosen
    let r := ofFields fun f => if chosen f then f.get other else f.get c
    have hr : ∀ f : Field, f.get r = if chosen f then f.get other else f.get c :=
      Field.get_ofFields _
    exact ⟨r, overrideFrom_eq_ok_iff.mpr fun f => follows_showing.mpr (hr f), hr⟩
  · exact fun other => overrideFrom_eq_ok_iff.mpr fun f => follows_showing.mpr rfl

end TypedBus.Config
