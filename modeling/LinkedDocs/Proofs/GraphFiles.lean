import LinkedDocs.File
import LinkedDocs.Proofs.Encoding
import LinkedDocs.Proofs.Faults

/-!
# Graph files load or are refused

A graph file gives a graph, or it is refused. Whatever value a file describes, reading it as a graph
can only fail for a reason in its content, and such a graph is invalid. The file itself is refused
if it cannot be opened or parsed, but a path that no file can have and bytes that encode no text are
reported as they are.
-/

namespace LinkedDocs

open FaultsFromContent

lemma faults_withId (ids id : Value) : FaultsFromContent (withId ids id) := by
  refine (Value.faults_has ids id).bind fun found => ?_
  split
  · exact ok _
  split
  · exact ok _
  · exact error rfl

namespace Graph

/-! ## Adding an entity -/

lemma faults_expect (g : Graph) (wanted : EntityKind) (id : Value) :
    FaultsFromContent (g.expect wanted id) := by
  refine (Value.faults_identifier id).map.bind fun found => ?_
  split
  · split
    · exact ok _
    · exact error rfl
  · exact error rfl

lemma faults_admission (g : Graph) (e : Entity) : FaultsFromContent (g.admission e) := by
  refine (Value.faults_identifier e.id).bind fun key => ?_
  split
  · exact error rfl
  split
  · rename_i wanted _
    split
    · exact ok _
    · exact (faults_expect g wanted e.parent).bind fun parent =>
        (Value.faults_identifier e.parent).bind fun _ => ok _
  · exact ok _

lemma faults_with? (g : Graph) (e : Entity) : FaultsFromContent (g.with? e) := by
  intro fault h
  unfold with? add at h
  cases hadmission : g.admission e with
  | error cause =>
    rw [hadmission] at h
    cases h
    exact faults_admission g e fault hadmission
  | ok admitted =>
    obtain ⟨key, parent?⟩ := admitted
    rw [hadmission] at h
    cases parent? with
    | none => cases h
    | some parent =>
      cases hchildren : withId parent.2.children e.id with
      | ok children =>
        simp only [hchildren] at h
        cases h
      | error cause =>
        simp only [hchildren] at h
        cases h
        exact faults_withId _ _ fault hchildren

/-! ## Reading the parts of a graph -/

lemma faults_readName (record : List (Scalar × Value)) (what : Text) :
    FaultsFromContent (readName record what) := by
  unfold readName
  split
  · exact ok _
  · exact error rfl

lemma faults_readReference (item : Value) : FaultsFromContent (readReference item) := by
  unfold readReference
  split
  · exact ok _
  · exact (Value.faults_entries _).bind fun record => (Value.faults_shown _).bind fun raw =>
      (Value.faults_word _ _ _ _).bind fun kind => (Value.faults_word _ _ _ _).bind fun state =>
        (Value.faults_word _ _ _ _).bind fun symbolKind => ok _

lemma faults_readThrown (item : Value) : FaultsFromContent (readThrown item) :=
  (Value.faults_entries item).bind fun _ => (Value.faults_shown _).bind fun _ => ok _

lemma faults_readContent (record : List (Scalar × Value)) :
    FaultsFromContent (readContent record) :=
  (Value.faults_itemsUnder record _).bind fun _ => (mapM faults_readReference _).bind fun _ =>
    (Value.faults_itemsUnder record _).bind fun _ => (mapM faults_readThrown _).bind fun _ => ok _

lemma faults_readId {default : Except Fault Text} (h : FaultsFromContent default)
    (record : List (Scalar × Value)) : FaultsFromContent (readId record default) := by
  unfold readId
  dsimp only
  split
  · exact ok _
  · exact h.map

/-! ## Reading a graph, level by level -/

lemma faults_loadParameter (member : Value) (g : Graph) (data : Value) :
    FaultsFromContent (loadParameter member g data) :=
  data.faults_entries.bind fun record => (faults_readName record _).bind fun _ =>
    (faults_readId member.faults_shown.map record).bind fun _ =>
      (faults_readContent record).bind fun _ => faults_with? g _

lemma faults_loadMember (type fullName : Value) (g : Graph) (data : Value) :
    FaultsFromContent (loadMember type fullName g data) :=
  data.faults_entries.bind fun record => (faults_readName record _).bind fun _ =>
    (Value.faults_word _ _ _ _).bind fun _ =>
      (faults_readId fullName.faults_shown.map record).bind fun id =>
        (faults_readContent record).bind fun _ => (faults_with? g _).bind fun g =>
          (Value.faults_itemsUnder record _).bind fun parameters =>
            foldlM (faults_loadParameter id) parameters g

lemma faults_loadType (space : Value) (spaceName : Text) (g : Graph) (data : Value) :
    FaultsFromContent (loadType space spaceName g data) :=
  data.faults_entries.bind fun record => (faults_readName record _).bind fun _ =>
    (faults_readId (Value.faults_shown _).map record).bind fun id =>
      (Value.faults_word _ _ _ _).bind fun _ => (faults_readContent record).bind fun _ =>
        (faults_with? g _).bind fun g => (Value.faults_itemsUnder record _).bind fun members =>
          foldlM (faults_loadMember id _) members g

lemma faults_loadNamespace (assembly : Value) (g : Graph) (data : Value) :
    FaultsFromContent (loadNamespace assembly g data) :=
  data.faults_entries.bind fun record => (Value.faults_shown _).bind fun name =>
    (faults_readId (ok _) record).bind fun id => (faults_readContent record).bind fun _ =>
      (faults_with? g _).bind fun g => (Value.faults_itemsUnder record _).bind fun types =>
        foldlM (faults_loadType id name) types g

lemma faults_loadAssembly (g : Graph) (data : Value) : FaultsFromContent (loadAssembly g data) :=
  data.faults_entries.bind fun record => (faults_readName record _).bind fun _ =>
    (faults_readId (ok _) record).bind fun id => (faults_readContent record).bind fun _ =>
      (faults_with? g _).bind fun g => (Value.faults_itemsUnder record _).bind fun spaces =>
        foldlM (faults_loadNamespace id) spaces g

/-- Whatever a value is, reading it as a graph fails only for a reason in its content. -/
lemma faults_read (data : Value) : FaultsFromContent (read data) :=
  data.faults_entries.bind fun record => (Value.faults_itemsUnder record _).bind fun assemblies =>
    foldlM faults_loadAssembly assemblies empty

lemma ofValue_error {data : Value} {fault : Fault} (h : ofValue data = .error fault) :
    ∃ cause, fault = .invalidGraph cause ∧ read data = .error cause ∧
      cause.isFromContent = true := by
  unfold ofValue at h
  cases hread : read data with
  | ok g => rw [hread] at h; cases h
  | error cause =>
    rw [hread] at h
    cases h
    exact ⟨cause, rfl, rfl, faults_read data cause hread⟩

/-! ## Reading a file -/

/-- The faults of a graph file that are no refusals, with the path and the file that lead to
them. -/
inductive Escapes (path : Text) (file : File) : Fault → Prop where
  /-- The path has a character that no path can have. -/
  | nullInPath (hpath : '\x00' ∈ path) : Escapes path file .nullInPath
  /-- The bytes of the file encode no text. -/
  | undecodable {bytes : List UInt8} {flaw : Utf8.Flaw} (hpath : '\x00' ∉ path)
      (hfile : file = .content bytes) (hbytes : ∀ t, bytes ≠ Utf8.encode t)
      (hflaw : Utf8.decode bytes = .error flaw) : Escapes path file flaw.fault

variable {parse : Text → Except Yaml.Problem Value} {path : Text} {file : File} {fault : Fault}

lemma Escapes.valueOfFile (h : Escapes path file fault) :
    valueOfFile parse path file = .error fault := by
  cases h with
  | nullInPath hpath => simp [Graph.valueOfFile, hpath]
  | undecodable hpath hfile hbytes hflaw =>
    simp [Graph.valueOfFile, hpath, hfile, File.read, hflaw]

lemma Escapes.label_ne (h : Escapes path file fault) : fault.label ≠ "GraphLoadError".toList := by
  cases h with
  | nullInPath => decide
  | undecodable =>
    show "UnicodeDecodeError".toList ≠ "GraphLoadError".toList
    decide

/-- A file that is no valid document is refused, given that the document has no other fault. -/
lemma valueOfFile_error
    (hdocument : ∀ t fault, file = .content (Utf8.encode t) → parse t ≠ .error (.faulty fault))
    (h : valueOfFile parse path file = .error fault) :
    fault.label = "GraphLoadError".toList ∨ Escapes path file fault := by
  unfold valueOfFile at h
  split at h
  · rename_i hpath
    cases h
    exact .inr (.nullInPath (by simpa using hpath))
  rename_i hpath
  split at h
  · cases h
    exact .inl rfl
  rename_i bytes hread
  have hfile : file = .content bytes := by
    cases file <;> simp_all [File.read]
  split at h
  · rename_i flaw hflaw
    cases h
    refine .inr (.undecodable (by simpa using hpath) hfile ?_ hflaw)
    intro t ht
    rw [Utf8.decode_eq_ok_iff.2 ht] at hflaw
    cases hflaw
  · rename_i t ht
    split at h
    · cases h
      exact .inl rfl
    · rename_i cause hcause
      exact absurd hcause (hdocument t cause (by rw [hfile, Utf8.decode_eq_ok_iff.1 ht]))
    · cases h

/-- A graph file gives a graph or is refused, whatever the format of its document is, provided that
the document can be read or is refused; what else can happen is listed in full. Whatever value a
file describes, what is wrong with it as a graph is wrong with its content, and is reported as an
invalid graph. -/
theorem ofFile_loads_or_refuses (parse : Text → Except Yaml.Problem Value) (path : Text)
    (file : File)
    (hdocument : ∀ t fault, file = .content (Utf8.encode t) → parse t ≠ .error (.faulty fault)) :
    (∀ fault, (ofFile parse path file).result = .error fault ∧
        fault.label ≠ "GraphLoadError".toList ↔
      Escapes path file fault) ∧
    ∀ data fault, ofValue data = .error fault → ∃ cause, fault = .invalidGraph cause ∧
      read data = .error cause ∧ cause.isFromContent = true := by
  refine ⟨fun fault => ⟨?_, fun h => ⟨?_, h.label_ne⟩⟩, fun data fault => ofValue_error⟩
  · rintro ⟨h, hlabel⟩
    unfold ofFile at h
    split at h
    · rename_i hvalue
      cases h
      exact (valueOfFile_error hdocument hvalue).resolve_left hlabel
    · cases h
    · split at h
      · rename_i hinvalid
        cases h
        obtain ⟨cause, rfl, -⟩ := ofValue_error hinvalid
        exact absurd rfl hlabel
      · cases h
    · cases h
      exact absurd rfl hlabel
  · rw [ofFile, h.valueOfFile]

/-- Whether a document is a map with a number under a key, and nothing else. -/
def isNumberEntry {ε : Type} (key : Text) (n : Int) : Except ε Value → Bool
  | .ok (.map [(.text key', .int n')]) => decide (key' = key ∧ n' = n)
  | _ => false

lemma eq_of_isNumberEntry {ε : Type} {key : Text} {n : Int} {document : Except ε Value}
    (h : isNumberEntry key n document = true) : document = .ok (.map [(.text key, .int n)]) := by
  unfold isNumberEntry at h
  split at h
  · obtain ⟨rfl, rfl⟩ := of_decide_eq_true h
    rfl
  · cases h

/-- A file that describes a number where assemblies are listed is refused. -/
theorem ofFile_of_number :
    (∀ fault, ¬Escapes "g.yml".toList (.content (Utf8.encode "assemblies: 3".toList)) fault) ∧
    (ofFile Yaml.Document.ofText "g.yml".toList
      (.content (Utf8.encode "assemblies: 3".toList))).result =
      .error (.invalidGraph (.notIterable (.int 3))) := by
  have hdocument : Yaml.Document.ofText "assemblies: 3".toList =
      .ok (.map [(.text "assemblies".toList, .int 3)]) :=
    eq_of_isNumberEntry (by decide +kernel)
  have hresult : (ofFile Yaml.Document.ofText "g.yml".toList
      (.content (Utf8.encode "assemblies: 3".toList))).result =
        .error (.invalidGraph (.notIterable (.int 3))) := by
    have hvalue : valueOfFile Yaml.Document.ofText "g.yml".toList
        (.content (Utf8.encode "assemblies: 3".toList)) =
          .ok (.map [(.text "assemblies".toList, .int 3)]) := by
      rw [valueOfFile, if_neg (by decide), File.read]
      dsimp only
      rw [Utf8.decode_eq_ok_iff.2 rfl]
      dsimp only
      rw [hdocument]
      rfl
    rw [ofFile, hvalue]
    rfl
  refine ⟨fun fault h => ?_, hresult⟩
  have hescapes := (ofFile_loads_or_refuses Yaml.Document.ofText "g.yml".toList
    (.content (Utf8.encode "assemblies: 3".toList)) fun t fault ht => ?_).1 fault
  · obtain ⟨hfault, hlabel⟩ := hescapes.2 h
    rw [hresult] at hfault
    cases hfault
    exact hlabel rfl
  · obtain rfl := Utf8.encode_injective (File.content.inj ht)
    rw [hdocument]
    simp

/-- A file of one byte that starts no sequence is neither loaded nor refused. -/
theorem ofFile_of_lone_byte :
    (ofFile Yaml.Document.ofText "g.yml".toList (.content [0xff])).result =
      .error (.undecodable 0xff 0 0 "invalid start byte".toList) ∧
    (Fault.undecodable 0xff 0 0 "invalid start byte".toList).label =
      "UnicodeDecodeError".toList := by
  have hdecode : Utf8.decode [0xff] = .error ⟨.badStart, 0xff, 0, 1⟩ := by
    simp [Utf8.decode, Utf8.decodeFrom, Utf8.sequence, Utf8.form?]
  have hescapes : Escapes "g.yml".toList (.content [0xff])
      (.undecodable 0xff 0 0 "invalid start byte".toList) := by
    refine .undecodable (by decide) rfl (fun t ht => ?_) hdecode
    rw [Utf8.decode_eq_ok_iff.2 ht] at hdecode
    cases hdecode
  refine ⟨?_, rfl⟩
  rw [ofFile, hescapes.valueOfFile]

end Graph

end LinkedDocs
