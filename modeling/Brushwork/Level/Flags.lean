/-!
# Flags

Flags are bits of a 32-bit word. The words are read as signed numbers, so the last bit
makes a word negative.
-/

namespace Brushwork

-- The zero is named so that the instance is the same wherever this module is imported.
instance width_neZero : @NeZero Nat Zero.ofOfNat0 32 :=
  ⟨by decide⟩

/-- Whether a bit of a word is set. -/
def hasBit (word : Int32) (bit : Fin 32) : Bool :=
  word.toBitVec.getLsbD bit

end Brushwork
