import GatedRollout.Config.Discovery
import GatedRollout.Proofs.Config.Timeouts

/-!
# The configuration that is found

Of the files that a configuration may stand in, the first that exists decides: what is wrong with it
is not made up for by a later one. A configuration that is loaded can be worked with: its names are
more than blanks, the name of its service is lawful, and it has a limit for every wait. All this
holds whatever files there are and however their texts are parsed.
-/

namespace GatedRollout

/-- What a rollout relies on in its configuration. -/
structure Config.Sound (c : Config) : Prop where
  cluster : ∃ x ∈ c.cluster.toList, Text.isBlank x = false
  taskGroup : ∃ x ∈ c.canary.taskGroup.toList, Text.isBlank x = false
  service : ServiceName.parse c.service.text = .ok c.service
  limits : ∀ phase, c.timeouts.resolve phase ≠ .zero

/-! ## Drafts -/

/-- The name of the service is judged while the text is read. -/
theorem Config.Draft.complete?_service {draft : Config.Draft} {c : Config}
    (h : draft.complete? = some c) : ServiceName.parse c.service.text = .ok c.service := by
  simp only [complete?, Option.bind_eq_bind, Option.bind_eq_some_iff] at h
  obtain ⟨service, hservice, hc⟩ := h
  cases hc
  cases hparse : ServiceName.parse draft.service with
  | error e => simp [hparse, Except.toOption] at hservice
  | ok parsed =>
      rw [hparse] at hservice
      cases hservice
      obtain ⟨rfl, -⟩ := ServiceName.parse_eq_ok_iff.mp hparse
      exact hparse

theorem Config.validate_eq_ok_iff {c c' : Config} :
    c.validate = .ok c' ↔ c = c' ∧ Text.allBlank c.cluster = false ∧
      Text.allBlank c.canary.taskGroup = false := by
  unfold validate
  cases Text.allBlank c.cluster <;> cases Text.allBlank c.canary.taskGroup <;> simp

/-! ## Texts and files -/

theorem fromUTF8?_eq_some_iff {content : ByteArray} {text : String} :
    String.fromUTF8? content = some text ↔ content = text.toUTF8 := by
  rw [String.fromUTF8?, String.toUTF8_eq_toByteArray]
  split
  · next hvalid => exact ⟨fun h => by cases h; rfl, fun h => by subst h; rfl⟩
  · next hinvalid =>
      exact iff_of_false nofun fun h => hinvalid (h ▸ text.isValidUTF8)

namespace ConfigSource

variable {source : ConfigSource} {directory : String}

theorem sound_of_ofText {text : String} {c : Config} (h : source.ofText text = .ok c) :
    c.Sound := by
  unfold ofText at h
  split at h
  · cases h
  · next read hread =>
      obtain ⟨rfl, hcluster, hgroup⟩ := Config.validate_eq_ok_iff.mp h
      obtain ⟨draft, -, hcomplete⟩ := Option.bind_eq_some_iff.mp hread
      exact {
        cluster := (Text.allBlank_eq_false_iff _).mp hcluster
        taskGroup := (Text.allBlank_eq_false_iff _).mp hgroup
        service := Config.Draft.complete?_service hcomplete
        limits := read.timeouts.resolve_ne_zero }

/-- A configuration is loaded from a file of text that spells it, and from nothing else. -/
theorem load_eq_ok_iff {path : String} {c : Config} :
    source.load path = .ok c ↔ ∃ text : String,
      source.node? path = some (.file text.toUTF8) ∧ source.ofText text = .ok c := by
  unfold load
  split
  · next content hnode =>
      simp only [hnode, Option.some.injEq, FileNode.file.injEq, ← fromUTF8?_eq_some_iff]
      cases String.fromUTF8? content <;> simp
  · next hother =>
      exact iff_of_false nofun fun ⟨text, hfile, _⟩ => hother text.toUTF8 hfile

theorem sound_of_load {path : String} {c : Config} (h : source.load path = .ok c) : c.Sound := by
  obtain ⟨text, -, hspells⟩ := load_eq_ok_iff.mp h
  exact sound_of_ofText hspells

theorem ofText_ne_notFound (text directory : String) :
    source.ofText text ≠ .error (.notFound directory) := by
  unfold ofText Config.validate
  split
  · simp
  · split
    · simp
    · split <;> simp

/-- A file that was found but cannot be used is not taken for a missing one. -/
theorem load_ne_notFound (path directory : String) :
    source.load path ≠ .error (.notFound directory) := by
  unfold load
  split
  · split
    · exact ofText_ne_notFound _ directory
    · simp
  · simp

/-! ## The search -/

/-- Something of that name stands in the directory. -/
def Has (source : ConfigSource) (directory name : String) : Prop :=
  (source.node? (join directory name)).isSome = true

theorem discover_of_first {name : String} {before after : List String}
    (hnames : fileNames = before ++ name :: after)
    (hbefore : ∀ earlier ∈ before, ¬source.Has directory earlier)
    (hname : source.Has directory name) :
    source.discover directory = source.load (join directory name) := by
  have hfind : (fileNames.map (join directory)).find?
      (fun path => (source.node? path).isSome) = some (join directory name) := by
    rw [List.find?_eq_some_iff_append]
    refine ⟨hname, before.map (join directory), after.map (join directory), ?_, ?_⟩
    · rw [hnames, List.map_append, List.map_cons]
    · intro path hpath
      obtain ⟨earlier, hearlier, rfl⟩ := List.mem_map.mp hpath
      simpa [Has] using hbefore earlier hearlier
  rw [discover, hfind]

theorem discover_of_none (h : ∀ name ∈ fileNames, ¬source.Has directory name) :
    source.discover directory = .error (.notFound directory) := by
  have hfind : (fileNames.map (join directory)).find?
      (fun path => (source.node? path).isSome) = none := by
    rw [List.find?_eq_none]
    intro path hpath
    obtain ⟨name, hname, rfl⟩ := List.mem_map.mp hpath
    exact h name hname
  rw [discover, hfind]

/-- Either nothing is there, or some file is the first. -/
theorem first_or_none (source : ConfigSource) (directory : String) :
    (∀ name ∈ fileNames, ¬source.Has directory name) ∨
      ∃ before name after, fileNames = before ++ name :: after ∧
        (∀ earlier ∈ before, ¬source.Has directory earlier) ∧ source.Has directory name := by
  cases hfind : fileNames.find? fun name => (source.node? (join directory name)).isSome with
  | none => exact .inl (by simpa [Has] using List.find?_eq_none.mp hfind)
  | some name =>
      obtain ⟨hname, before, after, hnames, hbefore⟩ := List.find?_eq_some_iff_append.mp hfind
      exact .inr ⟨before, name, after, hnames, by simpa [Has] using hbefore, hname⟩

theorem discover_eq_notFound_iff :
    (∃ named, source.discover directory = .error (.notFound named)) ↔
      ∀ name ∈ fileNames, ¬source.Has directory name := by
  refine ⟨fun ⟨named, hfound⟩ => ?_, fun h => ⟨directory, discover_of_none h⟩⟩
  rcases source.first_or_none directory with hnone | ⟨before, name, after, hnames, hbefore, hname⟩
  · exact hnone
  · rw [discover_of_first hnames hbefore hname] at hfound
    exact absurd hfound (load_ne_notFound _ named)

theorem sound_of_discover {c : Config} (h : source.discover directory = .ok c) : c.Sound := by
  rcases source.first_or_none directory with hnone | ⟨before, name, after, hnames, hbefore, hname⟩
  · rw [discover_of_none hnone] at h
    cases h
  · rw [discover_of_first hnames hbefore hname] at h
    exact sound_of_load h

/-- Whatever files there are and whatever their texts spell, a configuration is missed only where
none of the three files exists, and the directory is then named. Otherwise the first one that exists
is loaded, whatever becomes of it: a configuration is found only if that file is one of text that
spells it. Whatever way a configuration is come by, it is sound. -/
theorem discover_masks_nothing (source : ConfigSource) (directory : String) :
    let names := ["canarist.yml", "canarist.yaml", ".canarist/config.yml"]
    ((∃ named, source.discover directory = .error (.notFound named)) ↔
        ∀ name ∈ names, ¬source.Has directory name) ∧
      (∀ named, source.discover directory = .error (.notFound named) → named = directory) ∧
      (∀ before name after, names = before ++ name :: after →
        (∀ earlier ∈ before, ¬source.Has directory earlier) → source.Has directory name →
          source.discover directory = source.load (join directory name) ∧
            ∀ c, source.discover directory = .ok c ↔ ∃ text : String,
              source.node? (join directory name) = some (.file text.toUTF8) ∧
                source.ofText text = .ok c) ∧
      (∀ c, source.discover directory = .ok c → c.Sound) ∧
      (∀ path c, source.load path = .ok c → c.Sound) ∧
      ∀ text c, source.ofText text = .ok c → c.Sound := by
  intro names
  refine ⟨discover_eq_notFound_iff, fun named hnamed => ?_,
    fun before name after hnames hbefore hname => ?_, fun c => sound_of_discover,
    fun path c => sound_of_load, fun text c => sound_of_ofText⟩
  · have hnone := discover_of_none (discover_eq_notFound_iff.mp ⟨named, hnamed⟩)
    rw [hnone] at hnamed
    cases hnamed
    rfl
  · have hload := discover_of_first hnames hbefore hname
    exact ⟨hload, fun c => hload ▸ load_eq_ok_iff⟩

/-- A directory in the place of the first file hides a second file that is fine. -/
example : Config.discover ⟨[("canarist.yml", .directory),
    ("canarist.yaml", .file "cluster: prod\nservice: api".toUTF8)]⟩ "" = .error .unreadable := rfl

theorem discover_masks_nothing_second :
    let text := "cluster: prod\nservice: api"
    let tree : FileTree :=
      ⟨[("conf/canarist.yaml", .file text.toUTF8), ("conf/.canarist/config.yml", .locked)]⟩
    ∃ c, Config.discover tree "conf/" = .ok c ∧ c.Sound := by
  intro text tree
  obtain ⟨-, -, hfirst, hsound, -, -⟩ := discover_masks_nothing tree.source "conf/"
  obtain ⟨-, hfound⟩ := hfirst ["canarist.yml"] "canarist.yaml" [".canarist/config.yml"] rfl
    (by simp [Has]; decide) rfl
  have hread : (tree.source.ofText text).isOk = true := by decide +kernel
  cases hspelled : tree.source.ofText text with
  | error e => simp [hspelled, Except.isOk, Except.toBool] at hread
  | ok c =>
      have hdiscover := (hfound c).mpr ⟨text, rfl, hspelled⟩
      exact ⟨c, hdiscover, hsound c hdiscover⟩

end ConfigSource

end GatedRollout
