import DesignLens.Json.Value

/-!
# The presets that come with the library

Prompts for changes to a program, and for single steps of such changes.
-/

namespace DesignLens.Presets

def preset (id name body : String) : Json :=
  .obj [("id", .str id), ("name", .str name), ("body", .str body)]

/-- Prompts for whole changes. -/
def shippedPrompts : List Json :=
  [preset "minimal-seam-integration" "Minimal seam integration (pattern/arch)"
      ("Map roles to current code; propose a minimal seam to integrate '\x7bname\x7d' " ++
        "without changing public APIs. Limit to tiny diffs, show a short step list, and " ++
        "validate via unit tests + ast/libcst/py_compile. Return risks and a rollback note."),
    preset "adapter-first-guardrail" "Adapter-first guardrail"
      ("Identify client-facing API and keep it stable. Provide an Adapter facade that " ++
        "delegates to existing implementations. Show only 3–5 line diff chunks. Confirm no " ++
        "signature changes and behavior unchanged."),
    preset "catalog-technique-pointer" "Catalog-guided technique (single)"
      ("Pick 1 technique (Extract Function | Introduce Parameter Object | Replace Temp " ++
        "with Query). Propose the smallest patch plan that reduces coupling for " ++
        "'\x7bhotspot\x7d'. Output only 3–5 line diff chunks; include a quick test that " ++
        "should pass."),
    preset "branch-by-abstraction" "Branch-by-Abstraction micro-plan"
      ("Define an abstraction for '\x7bcapability\x7d', implement old and new behind it, " ++
        "and wire via a minimal seam. No public API changes. Provide a two-commit plan and " ++
        "a rollback step."),
    preset "strangler-fig" "Strangler Fig path"
      ("Identify a boundary to route one call path through a facade. Provide the smallest " ++
        "viable patch. Stop if diff > ~30 lines. Validate with tests + ruff + " ++
        "ast/libcst/py_compile; return a green/stop decision.")]

/-- Prompts for single steps. -/
def shippedSubruns : List Json :=
  [preset "single-technique-micro-refactor" "Single-technique micro-refactor"
      ("Select one: Extract Function | Inline Function | Replace Temp with Query. Show " ++
        "only 3–5 line diff chunks. Do not touch public APIs. Provide a rollback snippet. " ++
        "Run tests + ruff + ast/libcst + py_compile. If diff > budget or tests fail, " ++
        "output 'NO-CHANGE'."),
    preset "interface-freeze-gate" "Interface freeze gate"
      ("List public APIs touched. Assert no signature changes. If any change, abort. " ++
        "Otherwise propose a minimal Adapter/Facade. Show small diff only; run tests + " ++
        "py_compile and return PASS/FAIL."),
    preset "loop-to-pipeline" "Loop-to-pipeline nudge"
      ("If a hot loop is found, apply Replace Loop with Pipeline for one function. Show " ++
        "diff chunks only. Add 1 unit test for equivalence. Gate with tests + ruff + " ++
        "libcst parse + py_compile, else NO-CHANGE."),
    preset "conditional-simplification" "Conditional simplification"
      ("Pick Decompose Conditional or Replace Nested Conditional with Guard Clauses for " ++
        "function '\x7bname\x7d'. Keep observable behavior the same. Diff chunks only; " ++
        "include rollback plan. Test + parsers required."),
    preset "data-encapsulation" "Data encapsulation"
      ("Apply Encapsulate Variable or Encapsulate Collection in '\x7bmodule\x7d' for a " ++
        "single field. Ensure no API change. Provide before/after access sites. Validate " ++
        "with tests + ast/libcst/py_compile; stop on failures.")]

def shippedValue : Json :=
  .obj [("prompts", .arr shippedPrompts), ("subruns", .arr shippedSubruns)]

end DesignLens.Presets
