import SpectralBench.Failure

/-!
# Status codes of the graphics card's transform library

The library answers every call with a code. Zero is success; every other code becomes a failure
that names the call and the code.
-/

namespace SpectralBench.Backend.Status

/-- The names of the codes from zero on. -/
def names : List String :=
  ["CUFFT_SUCCESS", "CUFFT_INVALID_PLAN", "CUFFT_ALLOC_FAILED", "CUFFT_INVALID_TYPE",
    "CUFFT_INVALID_VALUE", "CUFFT_INTERNAL_ERROR", "CUFFT_EXEC_FAILED", "CUFFT_SETUP_FAILED",
    "CUFFT_INVALID_SIZE", "CUFFT_UNALIGNED_DATA", "CUFFT_INCOMPLETE_PARAMETER_LIST",
    "CUFFT_INVALID_DEVICE", "CUFFT_PARSE_ERROR", "CUFFT_NO_WORKSPACE", "CUFFT_NOT_IMPLEMENTED",
    "CUFFT_LICENSE_ERROR", "CUFFT_NOT_SUPPORTED"]

def name (code : Int) : String :=
  if code < 0 then "CUFFT_UNKNOWN_ERROR"
  else (names[code.toNat]?).getD "CUFFT_UNKNOWN_ERROR"

/-- Turns the code of a call into its success or failure. -/
def check (code : Int) (operation : String) : Except Failure Unit :=
  if code = 0 then .ok ()
  else .error (.backend "cuda" operation s!"{name code} ({code})")

end SpectralBench.Backend.Status
