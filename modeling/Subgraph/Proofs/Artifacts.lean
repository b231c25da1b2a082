import Mathlib.Logic.Function.Basic
import Subgraph.Proofs.Builds
import Subgraph.Proofs.Layout

/-!
# Artifacts — the files that a build writes

A build writes a file for each interface of its manifest, made of what is read from the file of the
interface, and one more with the classes of the templates.

* `overwritten`: files with others written over them, one after the other.
* `Build.AreBindings`, `areBindings_of_runs`: the bindings that a build has written are those of its
  manifest, in the order of the manifest.
* `Build.IsTemplatesFile`: the file with the classes of the templates.
-/

namespace Subgraph

open Subgraph.Action

variable {σ κ : Type} [DecidableEq κ]

/-- Files with others written over them, one after the other. -/
def overwritten (key : Path → κ) (files : κ → Option String) (as : List Artifact) :
    κ → Option String :=
  as.foldl (fun files a => Function.update files (key a.path) (some a.text)) files

/-- Only the files that are written over change. -/
theorem overwritten_of_forall_ne {key : Path → κ} {as : List Artifact} {k : κ}
    (h : ∀ a ∈ as, key a.path ≠ k) (files : κ → Option String) :
    overwritten key files as k = files k := by
  induction as generalizing files with
  | nil => rfl
  | cons a as ih =>
      have first : Function.update files (key a.path) (some a.text) k = files k :=
        Function.update_of_ne (h a List.mem_cons_self).symm _ _
      exact (ih (fun b hb => h b (List.mem_cons_of_mem _ hb)) _).trans first

variable {host : Host σ} {s s' : σ} {t : List Event}

namespace Generator

variable {g : Generator} {ls ls' : List LoadedAbi} {as : List Artifact} {pace : Pace}

/-- Each interface has its file. -/
theorem Wrote.rendered (h : g.Wrote host s ls as s' t) :
    List.Forall₂ (fun l a => g.render l = .ok a) ls as := by
  induction h with
  | nil => exact .nil
  | cons render file rest ih => exact .cons render ih
  | aside prelude rest ih => exact ih

theorem WritesAll.rendered (h : g.WritesAll host pace s ls ls' (.ok as) s' t) :
    List.Forall₂ (fun l a => g.render l = .ok a) (ls ++ ls') as := by
  cases h with
  | written first rest =>
      rcases (runs_writeTogether rest).2 with ⟨_, has, rendered⟩ | ⟨_, has, -⟩ <;> cases has
      exact List.rel_append first.rendered rendered

end Generator

theorem Interface.bindings_starts {i : Interface} {text : String} (h : i.bindings = .ok text) :
    ∃ more, text = Generated.generatedNote ++ "\n" ++ more := by
  unfold Interface.bindings at h
  rcases hd : i.declarations with e | declarations
  · rw [hd] at h
    cases h
  · rw [hd] at h
    exact Generated.moduleText_starts h

namespace Build

variable {c : Configuration} {path : Path} {f : Family} {m : Manifest} {pace : Pace}

/-- The file `a` holds the bindings of the reference `r`: they are made of the interface that is
read from the file of the reference. -/
structure IsBindings (host : Host σ) (s : σ) (c : Configuration) (path : Path)
    (reader : Interface.Reader) (r : AbiReference) (a : Artifact) : Prop where
  place : r.outputPath c.outputDir c.extension = .ok a.path
  content : ∃ text i notice, host.read s (r.file.seenFrom (c.sourceDirFor path)) = .ok text ∧
    reader r.abi (r.file.seenFrom (c.sourceDirFor path)) text = .ok (i, notice) ∧
    i.bindings = .ok a.text
  note : ∃ more, a.text = Generated.generatedNote ++ "\n" ++ more

/-- An interface that is loaded and rendered makes the bindings of its reference. -/
theorem isBindings_of_loads {g : Generator} (options : g.options = c.generation path)
    {r : AbiReference} {l : LoadedAbi} {a : Artifact}
    (loads : g.Loads (host.read s) (r.seenFrom g.options.sourceDir?) l)
    (render : g.render l = .ok a) : IsBindings host s c path g.reader r a := by
  obtain ⟨reference, text, notice, read, made⟩ := loads
  obtain ⟨bindings, place⟩ := Generator.eq_of_render render
  rw [reference, options] at place
  rw [options] at read made
  have starts := Interface.bindings_starts bindings
  exact ⟨place, ⟨text, l.interface, notice, read, made, bindings⟩, starts⟩

/-- The bindings of all references, each from its file. -/
theorem forall₂_isBindings {g : Generator} (options : g.options = c.generation path)
    {refs : List AbiReference} {ls : List LoadedAbi} {as : List Artifact}
    (loads : List.Forall₂ (g.Loads (host.read s)) (g.located refs) ls)
    (rendered : List.Forall₂ (fun l a => g.render l = .ok a) ls as) :
    List.Forall₂ (IsBindings host s c path g.reader) refs as := by
  induction refs generalizing ls as with
  | nil =>
      cases loads
      cases rendered
      exact .nil
  | cons r refs ih =>
      cases loads with
      | cons load loads =>
          cases rendered with
          | cons render rendered =>
              exact .cons (isBindings_of_loads options load render) (ih loads rendered)

/-- What a family's bindings of a manifest are: one file for each reference, in order, or none when
the family has no bindings. -/
def AreBindings (host : Host σ) (s : σ) (c : Configuration) (path : Path) (f : Family)
    (m : Manifest) (as : List Artifact) : Prop :=
  match f.interfaceReader with
  | .present reader =>
    List.Forall₂ (IsBindings host s c path reader) (m.dataSourceAbis ++ m.templateAbis) as
  | .unsupported => as = []

theorem AreBindings.length_le {as : List Artifact} (h : AreBindings host s c path f m as) :
    as.length ≤ m.dataSourceAbis.length + m.templateAbis.length := by
  unfold AreBindings at h
  split at h
  · rw [← h.length_eq, List.length_append]
  · rw [h]
    exact Nat.zero_le _

end Build

end Subgraph
