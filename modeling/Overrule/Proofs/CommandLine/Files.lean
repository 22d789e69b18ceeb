import Overrule.CommandLine.Arguments
import Mathlib.Data.List.Basic

namespace Overrule.CommandLine

def fileArguments (format : ReportFormat) (paths : List Path) : List Bytes :=
  [Utf8.encode "--format".toList, Utf8.encode format.name, Utf8.encode "--".toList] ++ paths

private def atFiles (format : ReportFormat) (paths : List Path) : Reading :=
  ⟨{ format }, [.format], .files paths, true⟩

private theorem foldlM_read_atFiles (format : ReportFormat) (seen paths : List Path) :
    paths.foldlM Reading.read (atFiles format seen) = .ok (atFiles format (seen ++ paths)) := by
  induction paths generalizing seen with
  | nil => rw [List.append_nil]; rfl
  | cons path paths ih =>
    have hread : (atFiles format seen).read path = .ok (atFiles format (seen ++ [path])) := rfl
    have hothers := ih (seen ++ [path])
    rw [← List.append_cons] at hothers
    rw [List.foldlM_cons, hread]
    exact hothers

theorem request_fileArguments (format : ReportFormat) {paths : List Path} (hpaths : paths ≠ [])
    (hnames : [] ∉ paths) : request (fileArguments format paths) = .ok (.run { files := paths, format }) := by
  obtain ⟨path, paths, rfl⟩ := List.exists_cons_of_ne_nil hpaths
  have hfirst : (fileArguments format [path]).foldlM Reading.read Reading.start =
      .ok (atFiles format [path]) := by
    cases format <;> rfl
  have hread : (fileArguments format (path :: paths)).foldlM Reading.read Reading.start =
      .ok (atFiles format (path :: paths)) := by
    have hsplit : fileArguments format (path :: paths) = fileArguments format [path] ++ paths := rfl
    rw [hsplit, List.foldlM_append, hfirst]
    exact foldlM_read_atFiles format [path] paths
  have hsettle : (atFiles format (path :: paths)).settle =
      .ok ⟨{ files := path :: paths, format }, [.format], .nothing, true⟩ := by
    simp only [Reading.settle, atFiles, if_neg hnames]
    rfl
  rw [request, hread]
  simp only [Reading.finish, hsettle]
  rfl

end Overrule.CommandLine
