namespace ClassTaint

/-! How deeply things may be nested. What is inside of something else is followed by a
call inside of a call, and only so many calls can be open at once. -/

/-- The number of calls that can be open at once. -/
def callLimit : Nat := 1000

/-- The calls that are left for writing a value, when the loader is called by the
program itself: these two are open already. -/
def deepestWriting : Nat := callLimit - 2

/-- The number of collections that can be open while nodes are read. Each of them takes
two calls, and what is around the outermost and inside the innermost one about twenty. -/
def deepestNesting : Nat := (callLimit - 20) / 2

end ClassTaint
