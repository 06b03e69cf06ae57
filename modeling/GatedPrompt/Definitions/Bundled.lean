import GatedPrompt.Definitions.Repository

/-!
# Bundled definitions

The definitions that come with the program: settings and a small scenario to try them on.

* `bundledFiles` — the files by name;
* `bundledTree` — a tree that holds nothing else;
* `bundledDirectory` — the directory that they are shown in: a path of a single step, whose name has
  slashes in it, so that no text denotes it;
* `besideBundled` — the files that the program sees: its own ones in that directory, and others
  wherever a text leads (`besideBundled_ofString`).
-/

namespace GatedPrompt.Definitions

open Storage (Lookup Path Tree)

/-- The settings that come with the program. -/
def bundledSettings : String :=
  "\n".intercalate [
    "\x7b",
    "  \"disabled_se\": \"Buzzer1\",",
    "  \"hidden_default\": \"next_available\",",
    "  \"error_handling\": \"skip_warn\",",
    "  \"alternative_text\": [",
    "    \x7b",
    "      \"text_code\": \"DISABLETEXT001\",",
    "      \"default_text\": \"This Choice is Enabled\",",
    "      \"disable_text\": \"This Choice is Disabled\"",
    "    \x7d,",
    "    \x7b",
    "      \"text_code\": \"SHOP_DOOR\",",
    "      \"default_text\": \"Enter the shop\",",
    "      \"disable_text\": \"The shop is closed\"",
    "    \x7d",
    "  ]",
    "\x7d",
    ""]

/-- The scenario that comes with the program. -/
def bundledScenario : String :=
  "\n".intercalate [
    "\x7b",
    "  \"state\": \x7b",
    "    \"switches\": \x7b\"3\": true, \"4\": false, \"12\": true\x7d,",
    "    \"variables\": \x7b\"4\": 80, \"65\": 50\x7d,",
    "    \"gold\": 120,",
    "    \"party\": [1, 2],",
    "    \"items\": \x7b\"6\": 3, \"55\": 1\x7d,",
    "    \"weapons\": \x7b\"2\": 1\x7d,",
    "    \"armours\": \x7b\x7d",
    "  \x7d,",
    "  \"prompts\": \x7b",
    "    \"gatekeeper\": \x7b",
    "      \"choices\": [",
    "        \"<<[s[3],!s[4]]>>Bribe the guard\",",
    "        \"(([v[65]<70]))Show the royal seal\",",
    "        \"<<[!i[55]]>>Use the pass\",",
    "        \"Walk away\"",
    "      ],",
    "      \"default\": 1,",
    "      \"cancel\": 3",
    "    \x7d,",
    "    \"merchant\": \x7b",
    "      \"choices\": [",
    "        \"<<[g<200]>>Buy the lantern\",",
    "        \"(([!p[3]]))<<[i[6]>=v[4]]>>Trade herbs\",",
    "        \"<<[!s[12]]>>SHOP_DOOR\",",
    "        \"Leave\"",
    "      ],",
    "      \"default\": 0,",
    "      \"cancel\": -2",
    "    \x7d",
    "  \x7d",
    "\x7d",
    ""]

/-- The files that come with the program. -/
def bundledFiles : List (String × String) :=
  [(settingsFile, bundledSettings), (scenarioFile, bundledScenario)]

/-- Where the files stand in their own tree. -/
def bundledParts : List String := ["data", "definitions"]

/-- The tree of the files that come with the program. -/
def bundledTree : Tree :=
  bundledFiles.foldl
    (fun tree (name, text) => .insert (.file text.toUTF8.toList) (bundledParts ++ [name]) tree)
    .empty

/-- The directory of the files that come with the program, shown under a name. -/
def bundledDirectory (name : String) : Path := ⟨.relative, [name]⟩

/-- Some files beside those that come with the program, whose directory is shown under a name. -/
def besideBundled (name : String) (files : Path → Lookup) (path : Path) : Lookup :=
  match path.root, path.parts with
  | .relative, first :: rest =>
    if first = name then bundledTree.lookup ⟨.relative, bundledParts ++ rest⟩ else files path
  | _, _ => files path

/-- A name with a slash in it hides none of the other files: what a text denotes is looked up among
them. -/
theorem besideBundled_ofString {name : String} (h : '/' ∈ name.toList) (files : Path → Lookup)
    (text : String) : besideBundled name files (.ofString text) = files (.ofString text) := by
  unfold besideBundled
  split
  · next first rest _ hparts =>
    have hmem : first ∈ (Path.ofString text).parts := by
      rw [hparts]
      exact List.mem_cons_self ..
    have hne : first ≠ name := fun heq => Path.not_mem_of_mem_parts hmem (heq ▸ h)
    rw [if_neg hne]
  · rfl

end GatedPrompt.Definitions
