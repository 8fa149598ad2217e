import LinkedDocs.Config
import LinkedDocs.Proofs.Faults

/-!
# Settings are valid or refused

A map of settings gives a configuration that passes every check, or else it is refused. One value
slips through the checks: the undefined number is no timeout of zero or less. Three numbers are not
refused but reported by faults of their own, which `Escapes` lists: an infinite number of workers, a
timeout that is an integer beyond double precision, and a negative number of workers with too many
digits for a message. Nothing else happens, and what stands under other keys has no effect.
-/

namespace LinkedDocs

/-- The number is greater than zero. -/
def Double.IsPositive : Double → Prop
  | .nan => False
  | .infinite negative => negative = false
  | .finite negative mantissa _ => negative = false ∧ 0 < mantissa

lemma Double.isAtMostZero_eq_false {x : Double} :
    x.isAtMostZero = false ↔ x = .nan ∨ x.IsPositive := by
  cases x <;> simp [isAtMostZero, IsPositive, Nat.pos_iff_ne_zero]

namespace Config

variable {entries : List (Scalar × Value)}

/-! ## The steps of reading -/

/-- The starts of external names, as given or by default. -/
def spacesSetting (entries : List (Scalar × Value)) : Except Fault (List Text) :=
  match given? entries .externalNamespaces with
  | some value => do (← value.items).mapM Value.shown
  | none => .ok ({} : Config).externalNamespaces

/-- The number of workers, as given or by default. -/
def workersSetting (entries : List (Scalar × Value)) : Except Fault Int :=
  match given? entries .maxWorkers with
  | some value => toInteger value
  | none => .ok ({} : Config).workers

/-- The timeout, as given or by default. -/
def timeoutSetting (entries : List (Scalar × Value)) : Except Fault (Option Double) :=
  match given? entries .entityTimeout with
  | some .null => .ok none
  | some value => (toDouble value).map some
  | none => .ok ({} : Config).timeout

/-- The draft with the given names, workers and timeout, and with texts for all else. -/
def draftWith (entries : List (Scalar × Value)) (spaces : List Text) (workers : Int)
    (timeout : Option Double) : Except Fault Draft := do
  let root ← textSetting entries .apiReferencePath ({} : Config).root
  let layout ← textSetting entries .namespaceMode ({} : Config).layout.text
  let separator ← textSetting entries .namespaceSeparator [({} : Config).separator]
  let codeLanguage ← textSetting entries .defaultCodeLanguage ({} : Config).codeLanguage
  let externalBase ← textSetting entries .externalDocsBaseUrl ({} : Config).externalBase
  return {
    root, layout, separator, codeLanguage, externalBase, workers, timeout
    createPlaceholders := match given? entries .createExternalTypeReferences with
      | some value => value.holds
      | none => ({} : Config).createPlaceholders
    externalNamespaces := spaces }

lemma spacesSetting_bind {α : Type} (f : List Text → Except Fault α) :
    spacesSetting entries >>= f =
      match given? entries .externalNamespaces with
      | some value => value.items >>= fun items => items.mapM Value.shown >>= f
      | none => f ({} : Config).externalNamespaces := by
  unfold spacesSetting
  split
  · rw [bind_assoc]
  · rfl

lemma workersSetting_bind {α : Type} (f : Int → Except Fault α) :
    workersSetting entries >>= f =
      match given? entries .maxWorkers with
      | some value => toInteger value >>= f
      | none => f ({} : Config).workers := by
  unfold workersSetting
  split <;> rfl

lemma timeoutSetting_bind {α : Type} (f : Option Double → Except Fault α) :
    timeoutSetting entries >>= f =
      match given? entries .entityTimeout with
      | some .null => f none
      | some value => (toDouble value).map some >>= f
      | none => f ({} : Config).timeout := by
  unfold timeoutSetting
  split <;> rfl

lemma draft_eq : draft entries =
    spacesSetting entries >>= fun spaces => workersSetting entries >>= fun workers =>
      timeoutSetting entries >>= draftWith entries spaces workers := by
  rw [spacesSetting_bind]
  simp only [workersSetting_bind, timeoutSetting_bind]
  rfl

/-! ## What can go wrong while reading -/

lemma faults_spacesSetting : FaultsFromContent (spacesSetting entries) := by
  unfold spacesSetting
  split
  · rename_i value _
    exact value.faults_items.bind fun items => .mapM Value.faults_shown items
  · exact .ok _

lemma faults_textSetting (setting : Setting) (default : Text) :
    FaultsFromContent (textSetting entries setting default) := by
  unfold textSetting
  split
  · exact Value.faults_shown _
  · exact .ok _

lemma faults_draftWith (spaces : List Text) (workers : Int) (timeout : Option Double) :
    FaultsFromContent (draftWith entries spaces workers timeout) :=
  (faults_textSetting _ _).bind fun _ => (faults_textSetting _ _).bind fun _ =>
    (faults_textSetting _ _).bind fun _ => (faults_textSetting _ _).bind fun _ =>
      (faults_textSetting _ _).bind fun _ => .ok _

lemma faults_writtenInteger (s : Scalar) : FaultsFromContent (writtenInteger s) := by
  unfold writtenInteger
  split
  · exact .ok _
  · exact .error rfl
  · exact .error rfl

lemma faults_writtenDouble (s : Scalar) : FaultsFromContent (writtenDouble s) := by
  unfold writtenDouble
  split
  · exact .ok _
  · exact .error rfl

/-- A value is no integer for a reason in its content, unless it is an infinite number. -/
lemma toInteger_error {value : Value} {fault : Fault} (h : toInteger value = .error fault) :
    fault.isFromContent = true ∨
      fault = .infiniteInteger ∧ ∃ negative, value = .double (.infinite negative) := by
  unfold toInteger at h
  split at h
  · cases h
  · cases h
  · cases h; exact .inl rfl
  · rename_i x hx
    cases x with
    | nan => exact absurd rfl hx
    | infinite negative => cases h; exact .inr ⟨rfl, negative, rfl⟩
    | finite negative mantissa exponent => cases h
  · exact .inl (faults_writtenInteger _ _ h)
  · exact .inl (faults_writtenInteger _ _ h)
  · cases h; exact .inl rfl

/-- A value is no decimal for a reason in its content, unless it is an integer out of range. -/
lemma toDouble_error {value : Value} {fault : Fault} (h : toDouble value = .error fault) :
    fault.isFromContent = true ∨ fault = .hugeInteger ∧
      ∃ n negative, value = .int n ∧ Double.ofInt n = .infinite negative := by
  unfold toDouble at h
  split at h
  · cases h
  · rename_i n
    split at h
    · rename_i negative hn
      cases h
      exact .inr ⟨rfl, n, negative, rfl, hn⟩
    · cases h
  · cases h
  · exact .inl (faults_writtenDouble _ _ h)
  · exact .inl (faults_writtenDouble _ _ h)
  · cases h; exact .inl rfl

lemma workersSetting_error {fault : Fault} (h : workersSetting entries = .error fault) :
    fault.isFromContent = true ∨ fault = .infiniteInteger ∧
      ∃ negative, given? entries .maxWorkers = some (.double (.infinite negative)) := by
  unfold workersSetting at h
  split at h
  · rename_i value hvalue
    rcases toInteger_error h with hcontent | ⟨rfl, negative, rfl⟩
    · exact .inl hcontent
    · exact .inr ⟨rfl, negative, hvalue⟩
  · cases h

lemma timeoutSetting_error {fault : Fault} (h : timeoutSetting entries = .error fault) :
    fault.isFromContent = true ∨ fault = .hugeInteger ∧
      ∃ n negative, given? entries .entityTimeout = some (.int n) ∧
        Double.ofInt n = .infinite negative := by
  unfold timeoutSetting at h
  split at h
  · cases h
  · rename_i value hvalue
    rcases toDouble_error (map_eq_error.1 h) with hcontent | ⟨rfl, n, negative, rfl, hn⟩
    · exact .inl hcontent
    · exact .inr ⟨rfl, n, negative, hvalue, hn⟩
  · cases h

/-! ## Valid settings -/

/-- The settings are those that the map gives, and each passes its check; only a timeout that is an
undefined number is not told from a positive one. -/
structure Follows (entries : List (Scalar × Value)) (c : Config) : Prop where
  layout : textSetting entries .namespaceMode PageLayout.file.text = .ok c.layout.text
  separator : textSetting entries .namespaceSeparator ['-'] = .ok [c.separator]
  workers : workersSetting entries = .ok c.workers
  timeout : timeoutSetting entries = .ok c.timeout
  one_le_workers : 1 ≤ c.workers
  positive : ∀ x, c.timeout = some x → x.IsPositive ∨ x = .nan

/-- The faults that are no refusals, with the settings that lead to them. -/
inductive Escapes (entries : List (Scalar × Value)) : Fault → Prop where
  /-- The number of workers is infinite. -/
  | infiniteWorkers {spaces : List Text} {negative : Bool}
      (hspaces : spacesSetting entries = .ok spaces)
      (hgiven : given? entries .maxWorkers = some (.double (.infinite negative))) :
      Escapes entries .infiniteInteger
  /-- The timeout is an integer beyond double precision. -/
  | hugeTimeout {spaces : List Text} {workers n : Int} {negative : Bool}
      (hspaces : spacesSetting entries = .ok spaces)
      (hworkers : workersSetting entries = .ok workers)
      (hgiven : given? entries .entityTimeout = some (.int n))
      (hhuge : Double.ofInt n = .infinite negative) : Escapes entries .hugeInteger
  /-- The number of workers is negative and has too many digits for a message. -/
  | unshowableWorkers {d : Draft} {layout : PageLayout} {separator : Char}
      (hdraft : draft entries = .ok d) (hlayout : d.layout = layout.text)
      (hseparator : d.separator = [separator]) (hfew : d.workers < 1)
      (hlong : (Scalar.int d.workers).isShowable = false) : Escapes entries .unshowableInteger

lemma ofText?_eq_some {word : Text} {layout : PageLayout} :
    PageLayout.ofText? word = some layout ↔ word = layout.text := by
  constructor
  · intro h
    unfold PageLayout.ofText? at h
    have hfound := List.find?_some h
    exact (beq_iff_eq.1 hfound).symm
  · rintro rfl
    cases layout <;> rfl

lemma draft_eq_ok {d : Draft} (h : draft entries = .ok d) :
    textSetting entries .namespaceMode PageLayout.file.text = .ok d.layout ∧
      textSetting entries .namespaceSeparator ['-'] = .ok d.separator ∧
      workersSetting entries = .ok d.workers ∧ timeoutSetting entries = .ok d.timeout := by
  rw [draft_eq] at h
  obtain ⟨spaces, -, h⟩ := bind_eq_ok.1 h
  obtain ⟨workers, hworkers, h⟩ := bind_eq_ok.1 h
  obtain ⟨timeout, htimeout, h⟩ := bind_eq_ok.1 h
  obtain ⟨root, -, h⟩ := bind_eq_ok.1 h
  obtain ⟨layout, hlayout, h⟩ := bind_eq_ok.1 h
  obtain ⟨separator, hseparator, h⟩ := bind_eq_ok.1 h
  obtain ⟨language, -, h⟩ := bind_eq_ok.1 h
  obtain ⟨base, -, h⟩ := bind_eq_ok.1 h
  cases h
  exact ⟨hlayout, hseparator, hworkers, htimeout⟩

lemma draft_error {fault : Fault} (h : draft entries = .error fault) :
    fault.isFromContent = true ∨ Escapes entries fault := by
  rw [draft_eq] at h
  rcases bind_eq_error.1 h with h | ⟨spaces, hspaces, h⟩
  · exact .inl (faults_spacesSetting fault h)
  rcases bind_eq_error.1 h with h | ⟨workers, hworkers, h⟩
  · rcases workersSetting_error h with hcontent | ⟨rfl, negative, hgiven⟩
    · exact .inl hcontent
    · exact .inr (.infiniteWorkers hspaces hgiven)
  rcases bind_eq_error.1 h with h | ⟨timeout, -, h⟩
  · rcases timeoutSetting_error h with hcontent | ⟨rfl, n, negative, hgiven, hhuge⟩
    · exact .inl hcontent
    · exact .inr (.hugeTimeout hspaces hworkers hgiven hhuge)
  · exact .inl (faults_draftWith spaces workers timeout fault h)

/-- What passes the checks. -/
lemma check_eq_ok {d : Draft} {c : Config} (h : d.check = .ok c) :
    d.layout = c.layout.text ∧ d.separator = [c.separator] ∧ d.workers = c.workers ∧
      d.timeout = c.timeout ∧ 1 ≤ c.workers ∧
      ∀ x, c.timeout = some x → x.IsPositive ∨ x = .nan := by
  unfold Draft.check at h
  split at h
  · cases h
  rename_i layout hlayout
  split at h
  · rename_i separator hseparator
    split at h
    · cases h
    rename_i hworkers
    have hlayout := ofText?_eq_some.1 hlayout
    split at h
    · rename_i x hx
      split at h
      · cases h
      rename_i hpositive
      cases h
      refine ⟨hlayout, hseparator, by dsimp only; omega, rfl, by dsimp only; omega, ?_⟩
      intro y hy
      obtain rfl : x = y := Option.some.inj (hx.symm.trans hy)
      exact (Double.isAtMostZero_eq_false.1 (by simpa using hpositive)).symm
    · rename_i hnone
      cases h
      refine ⟨hlayout, hseparator, by dsimp only; omega, rfl, by dsimp only; omega, ?_⟩
      intro y hy
      exact absurd (hnone.symm.trans hy) (by simp)
  · cases h

/-- A check refuses what it does not pass, unless its message cannot be made. -/
lemma check_error {d : Draft} {fault : Fault} (h : d.check = .error fault) :
    fault.label = "ConfigError".toList ∨ fault = .unshowableInteger ∧
      ∃ layout separator, d.layout = PageLayout.text layout ∧ d.separator = [separator] ∧
        d.workers < 1 ∧ (Scalar.int d.workers).isShowable = false := by
  unfold Draft.check at h
  split at h
  · cases h; exact .inl rfl
  rename_i layout hlayout
  split at h
  · rename_i separator hseparator
    split at h
    · rename_i hfew
      by_cases hshown : (Scalar.int d.workers).isShowable = true
      · rw [if_pos hshown] at h
        cases h; exact .inl rfl
      · rw [if_neg hshown] at h
        cases h
        exact .inr ⟨rfl, layout, separator, ofText?_eq_some.1 hlayout, hseparator, hfew,
          Bool.not_eq_true _ ▸ hshown⟩
    · split at h
      · split at h
        · cases h; exact .inl rfl
        · cases h
      · cases h
  · cases h; exact .inl rfl

/-! ## Other keys -/

/-- Whether a key is that of a setting. -/
def isSetting (key : Scalar) : Bool :=
  Setting.all.any fun s => key.same (.text s.name)

lemma given?_filter (setting : Setting) :
    given? (entries.filter fun (key, _) => isSetting key) setting = given? entries setting := by
  unfold given? Value.lookup?
  rw [List.find?_filter]
  congr 2
  funext ⟨key, value⟩
  have hsetting (h : key.same (.text setting.name) = true) : isSetting key = true :=
    List.any_eq_true.2 ⟨setting, by cases setting <;> decide, h⟩
  cases h : key.same (.text setting.name) <;> simp_all

lemma ofEntries_congr {other : List (Scalar × Value)}
    (h : ∀ setting, given? entries setting = given? other setting) :
    ofEntries entries = ofEntries other := by
  have hwith : draftWith entries = draftWith other := by
    funext spaces workers timeout
    simp only [draftWith, textSetting, h]
  unfold ofEntries
  rw [draft_eq, draft_eq, hwith]
  simp only [spacesSetting, workersSetting, timeoutSetting, h]

/-! ## Reading settings -/

lemma follows_of_ofEntries {c : Config} (h : ofEntries entries = .ok c) : Follows entries c := by
  unfold ofEntries at h
  cases hdraft : draft entries with
  | error fault => rw [hdraft] at h; cases h
  | ok d =>
    rw [hdraft] at h
    obtain ⟨hlayout, hseparator, hworkers, htimeout⟩ := draft_eq_ok hdraft
    obtain ⟨hlayout', hseparator', hworkers', htimeout', hone, hpositive⟩ := check_eq_ok h
    rw [hlayout'] at hlayout
    rw [hseparator'] at hseparator
    rw [hworkers'] at hworkers
    rw [htimeout'] at htimeout
    exact ⟨hlayout, hseparator, hworkers, htimeout, hone, hpositive⟩

lemma ofEntries_error {fault : Fault} (h : ofEntries entries = .error fault) :
    fault.label = "ConfigError".toList ∨ Escapes entries fault := by
  unfold ofEntries at h
  cases hdraft : draft entries with
  | error cause =>
    rw [hdraft, asSetting] at h
    by_cases hcontent : cause.isFromContent = true
    · rw [if_pos hcontent] at h
      cases h
      exact .inl rfl
    · rw [if_neg hcontent] at h
      cases h
      exact .inr ((draft_error hdraft).resolve_left hcontent)
  | ok d =>
    rw [hdraft] at h
    rcases check_error h with hlabel | ⟨rfl, layout, separator, hlayout, hseparator, hfew, hlong⟩
    · exact .inl hlabel
    · exact .inr (.unshowableWorkers hdraft hlayout hseparator hfew hlong)

lemma Escapes.ofEntries {fault : Fault} (h : Escapes entries fault) :
    ofEntries entries = .error fault := by
  cases h with
  | @infiniteWorkers spaces negative hspaces hgiven =>
    have hworkers : workersSetting entries = .error .infiniteInteger := by
      rw [workersSetting, hgiven]
      rfl
    have hdraft : draft entries = .error .infiniteInteger := by
      rw [draft_eq]
      exact bind_eq_error.2 (.inr ⟨spaces, hspaces, bind_eq_error.2 (.inl hworkers)⟩)
    rw [Config.ofEntries, hdraft]
    rfl
  | @hugeTimeout spaces workers n negative hspaces hworkers hgiven hhuge =>
    have htimeout : timeoutSetting entries = .error .hugeInteger := by
      rw [timeoutSetting, hgiven]
      exact map_eq_error.2 (by rw [toDouble, hhuge])
    have hdraft : draft entries = .error .hugeInteger := by
      rw [draft_eq]
      refine bind_eq_error.2 (.inr ⟨spaces, hspaces, ?_⟩)
      exact bind_eq_error.2 (.inr ⟨workers, hworkers, bind_eq_error.2 (.inl htimeout)⟩)
    rw [Config.ofEntries, hdraft]
    rfl
  | @unshowableWorkers d layout separator hdraft hlayout hseparator hfew hlong =>
    have hcheck : d.check = .error .unshowableInteger := by
      rw [Draft.check, ofText?_eq_some.2 hlayout]
      dsimp only
      rw [hseparator]
      dsimp only
      rw [if_pos hfew, hlong]
      rfl
    rw [Config.ofEntries, hdraft]
    exact hcheck

lemma Escapes.label_ne {fault : Fault} (h : Escapes entries fault) :
    fault.label ≠ "ConfigError".toList := by
  cases h <;> decide

/-- Reading settings gives settings that pass every check, or refuses the map; what else can happen
is listed in full. No key but those of settings matters. -/
theorem ofEntries_valid_or_refused (entries : List (Scalar × Value)) :
    (∀ c, ofEntries entries = .ok c → Follows entries c) ∧
    (∀ fault, ofEntries entries = .error fault ∧ fault.label ≠ "ConfigError".toList ↔
      Escapes entries fault) ∧
    ofEntries (entries.filter fun (key, _) => isSetting key) = ofEntries entries := by
  refine ⟨fun c => follows_of_ofEntries, fun fault => ?_, ofEntries_congr given?_filter⟩
  constructor
  · rintro ⟨h, hlabel⟩
    exact (ofEntries_error h).resolve_left hlabel
  · intro h
    exact ⟨h.ofEntries, h.label_ne⟩

/-- A timeout out of range is not refused but reported as it is, and the undefined number is taken
for a timeout. -/
theorem timeouts_not_refused :
    (ofEntries [(.text "entity_timeout".toList, .int (Int.pow 10 400))] = .error .hugeInteger ∧
      Fault.hugeInteger.label = "OverflowError".toList) ∧
    ofEntries [(.text "entity_timeout".toList, .text "nan".toList)] =
      .ok { timeout := some .nan } := by
  refine ⟨⟨?_, rfl⟩, ?_⟩
  · have hhuge : Double.ofInt (Int.pow 10 400) = .infinite false := by decide +kernel
    exact (Escapes.hugeTimeout rfl rfl rfl hhuge).ofEntries
  · rfl

end Config

end LinkedDocs
