import JobQueue.Json.Printer
import JobQueue.Digest.Sha256

/-!
# Fingerprints of submitted work

Two submissions are the same work when they have the same job type and the same payload up to the
order of members. The fingerprint of a submission is the digest of its type, a line break and the
canonical text of its payload; it serves as the idempotency key of the job.
-/

namespace JobQueue

/-- The text a fingerprint is taken of. -/
def fingerprintText (jobType : String) (payload : Json) : String :=
  jobType ++ "\n" ++ payload.canonical

/-- The fingerprint of a submission, in hexadecimal. -/
def fingerprint (jobType : String) (payload : Json) : String :=
  Digest.sha256Hex (fingerprintText jobType payload).toUTF8.toList

end JobQueue
