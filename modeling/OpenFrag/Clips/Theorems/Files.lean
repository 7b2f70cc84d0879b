import OpenFrag.Clips.Files

open EStateM Function

namespace Clips

variable {W α ε : Type} {ports : DiskPorts W}

-- A name of one component, which stays in its directory.
structure PlainName (name : String) : Prop where
  no_separator : '/' ∉ name.toList
  not_empty    : name ≠ ""
  not_current  : name ≠ "."
  not_parent   : name ≠ ".."

namespace PlainName

variable {name : String} {directory : FilePath}

theorem join (h : PlainName name) : directory.join name = directory ++ [name] := by
  have hhead : name.toList.head? ≠ some '/' := fun hhead =>
    h.no_separator (List.mem_of_head? hhead)
  have hempty : name.toList ≠ [] := fun hempty => h.not_empty (by simpa using hempty)
  have hdot : name.toList ≠ ['.'] := fun hdot => h.not_current (String.toList_inj.mp hdot)
  simp [FilePath.join, FilePath.components, hhead, List.splitOn_eq_singleton h.no_separator,
    hempty, hdot]

theorem ne_root (h : PlainName name) : name ≠ "/" := by
  intro heq
  exact h.no_separator (by simp [heq])

theorem fileName (h : PlainName name) : FilePath.fileName (directory ++ [name]) = some name := by
  simp [FilePath.fileName, h.ne_root, h.not_parent]

theorem parent (h : PlainName name) : FilePath.parent (directory ++ [name]) = some directory := by
  have hroot : directory ++ [name] ≠ ["/"] := by
    intro heq
    have hlast := congrArg List.getLast? heq
    exact h.ne_root (by simpa using hlast)
  simp [FilePath.parent, hroot]

end PlainName

-- A file that exists can be removed.
def Removes (ports : DiskPorts W) : Prop :=
  ∀ world, (ports.fault .remove world).1 = none

namespace Disk

variable {step : FileStep} {path path' : FilePath} {files : Files} {w : W}

theorem attempt_cases (ports : DiskPorts W) (step : FileStep) (files : Files) (w : W) :
    (∃ text w', (ports.fault step w).1 = some text ∧
      attempt ports step ⟨files, w⟩ = .error ⟨.other, text⟩ ⟨files, w'⟩) ∨
    (∃ w', attempt ports step ⟨files, w⟩ = .ok () ⟨files, w'⟩) := by
  rcases h : ports.fault step w with ⟨_ | text, w'⟩
  case none => exact .inr ⟨w', by simp [attempt, h]⟩
  case some => exact .inl ⟨text, w', rfl, by simp [attempt, h]⟩

theorem contentOf_cases (ports : DiskPorts W) (step : FileStep) (path : FilePath) (files : Files)
    (w : W) :
    (∃ e w', contentOf ports step path ⟨files, w⟩ = .error e ⟨files, w'⟩) ∨
    (∃ content w', files path = some (.file content) ∧
      contentOf ports step path ⟨files, w⟩ = .ok content ⟨files, w'⟩) := by
  unfold contentOf
  rcases attempt_cases ports step files w with ⟨text, w', _, h⟩ | ⟨w', h⟩
  case inl => exact .inl ⟨_, w', bind_error h⟩
  case inr =>
    rw [bind_ok h, bind_get]
    cases hentry : files path with
    | none => exact .inl ⟨missing, w', by simp only [hentry]; rfl⟩
    | some entry =>
      cases entry with
      | other => exact .inl ⟨_, w', by simp only [hentry]; rfl⟩
      | file content => exact .inr ⟨content, w', rfl, by simp only [hentry]; rfl⟩

theorem createNew_cases (ports : DiskPorts W) (path : FilePath) (files : Files) (w : W) :
    (∃ e w', createNew ports path ⟨files, w⟩ = .error e ⟨files, w'⟩) ∨
    (∃ w', files path = none ∧
      createNew ports path ⟨files, w⟩ = .ok () ⟨update files path (some (.file [])), w'⟩) := by
  unfold createNew
  rcases attempt_cases ports .create files w with ⟨text, w', _, h⟩ | ⟨w', h⟩
  case inl => exact .inl ⟨_, w', bind_error h⟩
  case inr =>
    rw [bind_ok h, bind_get]
    cases hentry : files path with
    | none => exact .inr ⟨w', rfl, by simp only [hentry]; rfl⟩
    | some entry => exact .inl ⟨taken, w', by simp only [hentry]; rfl⟩

theorem write_cases (ports : DiskPorts W) (path : FilePath) (content : List UInt8) (files : Files)
    (w : W) :
    (∃ e part w', write ports path content ⟨files, w⟩ =
      .error e ⟨update files path (some (.file part)), w'⟩) ∨
    (∃ w', write ports path content ⟨files, w⟩ =
      .ok () ⟨update files path (some (.file content)), w'⟩) := by
  unfold write
  split
  case h_1 w' _ => exact .inr ⟨w', rfl⟩
  case h_2 text w' _ => exact .inl ⟨⟨.other, text⟩, content.take (ports.written w'), w', rfl⟩

-- A link is refused when the name is taken, and else gives the file a second name.
theorem hardLink_cases (ports : DiskPorts W) (path path' : FilePath) (files : Files) (w : W) :
    (∃ w', (files path').isSome ∧ hardLink ports path path' ⟨files, w⟩ = .error taken ⟨files, w'⟩) ∨
    (∃ e w', e.kind ≠ .alreadyExists ∧
      hardLink ports path path' ⟨files, w⟩ = .error e ⟨files, w'⟩) ∨
    (∃ entry w', files path = some entry ∧ files path' = none ∧
      hardLink ports path path' ⟨files, w⟩ = .ok () ⟨update files path' (some entry), w'⟩) := by
  unfold hardLink
  rcases attempt_cases ports .link files w with ⟨text, w', _, h⟩ | ⟨w', h⟩
  case inl => exact .inr (.inl ⟨_, w', by simp, bind_error h⟩)
  case inr =>
    rw [bind_ok h, bind_get, bind_get]
    cases hentry : files path with
    | none =>
      exact .inr (.inl ⟨missing, w', by simp [missing], by simp only [hentry]; rfl⟩)
    | some entry =>
      cases hentry' : files path' with
      | none => exact .inr (.inr ⟨entry, w', rfl, rfl, by simp only [hentry, hentry']; rfl⟩)
      | some _ => exact .inl ⟨w', rfl, by simp only [hentry, hentry']; rfl⟩

-- A removal leaves nothing, or the entry as it was.
theorem removeFile_cases (ports : DiskPorts W) (path : FilePath) (files : Files) (w : W) :
    (∃ e w', (removeFile ports path ⟨files, w⟩ = .error e ⟨files, w'⟩) ∧
      (Removes ports → files path = none)) ∨
    (∃ w', removeFile ports path ⟨files, w⟩ = .ok () ⟨update files path none, w'⟩) := by
  unfold removeFile
  rcases attempt_cases ports .remove files w with ⟨text, w', htext, h⟩ | ⟨w', h⟩
  case inl => exact .inl ⟨_, w', bind_error h, fun hremoves => by simp [hremoves w] at htext⟩
  case inr =>
    rw [bind_ok h, bind_get]
    cases hentry : files path with
    | none => exact .inl ⟨missing, w', by simp only [hentry]; rfl, fun _ => rfl⟩
    | some entry => exact .inr ⟨w', by simp only [hentry]; rfl⟩

theorem discard_eq (ports : DiskPorts W) (path : FilePath) (files : Files) (w : W) :
    ∃ entry w', discard ports path ⟨files, w⟩ = ⟨update files path entry, w'⟩ ∧
      (entry = none ∨ entry = files path) ∧ (Removes ports → entry = none) := by
  unfold discard
  rcases removeFile_cases ports path files w with ⟨e, w', h, habsent⟩ | ⟨w', h⟩ <;> rw [h]
  case inl => exact ⟨files path, w', by simp, .inr rfl, habsent⟩
  case inr => exact ⟨none, w', rfl, .inl rfl, fun _ => rfl⟩

section

variable {x : EStateM ε (Disk W) α} {disk disk' : Disk W} {a : α} {e : ε}

theorem orDiscard_ok (h : x disk = .ok a disk') :
    orDiscard ports path x disk = .ok a disk' := by
  simp only [orDiscard, h]

theorem orDiscard_error (h : x disk = .error e disk') :
    orDiscard ports path x disk = .error e (discard ports path disk') := by
  simp only [orDiscard, h]

theorem thenDiscard_ok (h : x disk = .ok a disk') :
    thenDiscard ports path x disk = .ok a (discard ports path disk') := by
  simp only [thenDiscard, h]

theorem thenDiscard_error (h : x disk = .error e disk') :
    thenDiscard ports path x disk = .error e (discard ports path disk') := by
  simp only [thenDiscard, h]

end

end Disk

end Clips
