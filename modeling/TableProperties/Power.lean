/-!
# Powers

Powers of natural numbers and of integers are those of the core library, so that a bound such as
`2 ^ 63` is the same term in a module that reasons with monoids and in one that does not.
-/

attribute [instance (high), default_instance (high + 1)] instPowNat
