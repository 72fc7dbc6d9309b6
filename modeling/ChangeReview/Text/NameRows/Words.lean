/-!
# Names of characters: words

Parts of names that recur, the most frequent first. In the rows of names a mark or a letter beyond ASCII stands
for each of them.
-/

namespace ChangeReview.Text

/-- The marks that stand for the first words. -/
def nameMarks : String := "!#$%&()*,./:<=>?@[]^_|~"

/-- The words, divided by vertical lines. -/
def nameWords : List String :=
  [" WITH |gSMALL LETTER |ONE|ED |LETTER | AND |gCAPITAL LETTER | ABOVE|ING|RIGHT |SMALL |TWO|LEFT |ING ",
    "DOUBLE |SHA|FOUR|HREE|AL |ANG|LEFT|IVE|jSMALL LETTER | TIMES |RIGHT|jCAPITAL LETTER |SQUARE|SIGN |EIGHT",
    " MARK|CIRCLE|DOWN| ARROW| BELOW|MIDDLE |THE| SIGN| SIGNa| PLUS |TER| THOUSAND|TILDE|A+a| WITH STROKE|SIX",
    " OVER |EVEN|ENT|;10|aBLACK |ARROW|;11|aWHITE |ERa|OVER| OF |LAM|RIGHTWARDS ARROW|ISH|LINE|SHE| SYMBOLa",
    "ER |TURNED |AYA|ASH|SHI|LOWER |LIGHT|IC |ETH|STROKE|AIN| WITH HOOK| ARROWa|TRIANGLE|CAPITAL |GRAVE|ATION",
    "NGA|CHE|HEAVY|AND|yAx|ARA|NYA| HUNDRED|TEN|LONG |MACRON|REVERSED | ISOLATED FORM|IAN |tWEST-CREE |ESH",
    "NINE|MEEM|HOOK| SYMBOL|0t1t2t3t4t5t6t7t8t9s|DIGIT ZERO|ILL|UP | NOT| OR | WITH DOT ABOVE|IN |EEN|DOUBLE",
    "OPEN | FINAL FORM|LLA|WHITE |VERTICAL |00a|AN |BAR|HORIZONTAL |ARD|INVERTED |PER|CROSS|OXIA|COMMA|ONG",
    "IND|HEH| WITH CIRCUMFLEX|ION|TTA|SIOS| IN|BLACK |LESS-THAN|hSMALL LETTER | ISOLATED FORM+|RES|INDEX ",
    "HAND|LEa|GREATER-THAN|TRA|EN |HALF|TION |ALL|UPPER |BREVE|PIEUP|DDA|NNA|LOW |MEDIUM |DASIA AND ",
    "PSILI AND |DOWNWARDS |FACEa|hCAPITAL LETTER |WARDS|RIGHTWARDS |EEv|NOT|CAPITAL LETTER |;1F",
    " WITH DOT BELOW| UP|ICK|HALF | SIGNg|IME|aLEFTWARDS |I+a|FINAL FORM|TION|CHA|TEEN| ISOLATED FORMz|FINAL ",
    "TOR| POINTING |ON |ALA|HEAVY |LATIN |IEUN| BAR|EST| BRACKET|LE |RON|DASH| DOT|ALI|UNG|OUND|ELE|DOWN ",
    "ANUSVARA| WITH DIAERESIS| BELOWk|EQUAL TOa| TA| OF|ALE| INITIAL FORM|TION MARK|HEAD|KIYEOK|SHORT |INDEX",
    "MON|TRI| WITH JEEM|REC|CIRCLED |VOCALIC R|MEDIAL FORM|PAR|FORM|KHAH|TWO DOTS|aHEAVY |HAH|KHA|STI|78v|NUN",
    "END|LEFTWARDS ARROW|-POINTING |SSANG|WENTY|COLON|AMMA|A+e|TSA|THREE |SIDE| SIGN |A+c|AGE|ENG|DOT|PRO|ATE",
    " KA|CENTRE|FULL STOP|HIGH |HORIZONTAL|MAN|CON|OLD |ANT|THA| MA|OUT|OPERATOR|HORN| BU|aIN| AR|NIT|LIGHT ",
    " WITH MEEM|PERISPOMENI|YEH|ALEF|HIEUH|NGG|ANC|EAT| GUNU|PARENTHESIS|HARPOON WITH BARB |ApHAo|VARIA+",
    "TRIANGLE-HEADED|VOWEL SIGN A|OUTH|WAA|A+d|AIR|WHITE|REA|ERS|POS|aUPWARDS |DIAMOND| DI|VOWEL SIGN |EAR",
    "UND|NOON|TOP |BLACK|SHU|LOW|TAIL| SA|TA+|ACUTE| WITH DOT|DESCENDER|HIRTY|WAW|456| ORNAMENT|TRIPLE ",
    " BARB ARROW|PUNCTUATION|VERTICAL|INE|SYMBOL |MARK|STAR|SUB| ON |RETROFLEX HOOK|VISARGA|LARGE|qLOW |GAR",
    "EUAE|ASS|HOR|ETA|ITA| PA|PLUS|DEL|TIKEUT| ACCENT|POINTED |CORNER|MEEM INITIAL FORM|AR |YANNA|CHI|HEART",
    "RIN|OON|THUMB |LOO|x7x8x9w|OMEGA|DIAGONAL |COMBINING |FOR |MENT|QUARTER|ONE HUNDRED|AL+| RO|PSILON|AST",
    "IMA|GRAM|BELOW|LAG|EQUAL TO|AnHAm|AYIN|VERTICAL BAR|CIEUC|SINGLE|CIRCLE |HOU|x2x3x4x5x6|LITTLE|HAMZA|;1D",
    "0x1| WITH HAH|ALEF MAKSURA FINAL FORM|BALL|LINE |LARGE |SMALL+|TpXppPo|IOTA|AoHAn|AT |RAM|E+a|RAC|MIDDLE",
    "STA|TAN| ME|BACK|;1EE|EEn|qHIGH | WITH CARONg|OLD|TRO|MIN|U+a|IGATURE | TACK|CLOSED |VERTICAL STROKE|TAH",
    "DOTTED | AND YPOGEGRAMMENI|TION SIGN|RIS|CAR|ToXooP| BLOCK|PLA|qHA|WEST|SMA|SEPARATOR|VIRAMA|WAY|REH|BOX",
    "THREE DOTS|TRIANGLE-HEADED ARROW WITH |v123|RIEUL| DOTS|v12|CURL|SHO|MIL|IGI|STOP|FACE WITH |ArHAq|IFTY",
    "IDEO|MIEUM|ATHA|ALPHA|KAF|INITIAL FORM|SCRIPT |IDE|SEC|ALEF MAKSURA|CURV|CROSSING | AND ACUTE",
    "QUOTATION MARK|SQUARE BRACKET|PERS|BENT|VERY |HALF BLACK|OOK|JOIN|TENU|AoHA|SOUTH EAST",
    " WITH YEH FINAL FORM|BOTTOM |LETTER SMALL CAPITAL |EQUALS SIGN|AGON| YUS|aUP|ICA|1v2v3v4v5v6|ANDA| TE",
    "+bE|ICE|SEMI|WITH|001|yAyB|CANDRABINDU|sYENISEI |sORKHON |CEDILLA|RHO|GLOTTAL |PROSGEGRAMMENI",
    " WITH ACUTE|DOT ABOVE|TER |OPEN|STR|VARIA|QUAD|JEEM|rFIST |SPACE|WOO|MODIFIER |COMP|DOT BELOW|EQUAL",
    "WARDS ARROW| ARROWHEAD|NOR|UAE|GRAPH|DIGIT |AsHAr| DIGRAPH|MIDDLE RIGHT|QUESTION MARK|YEH ISOLATED FORM",
    "BLACK STAR|SIGMA| NEO|SET|TpXppP| ARROWaRIGHTWARDS |UNDERBAR|NUKTA|WAVE|SECTION|END OF |MEDIUM+",
    "DOWNWARDS ARROW|STRAIGHT|GREEK | WITH PALATAL HOOK|MEDI|STER|0y1y2y3y4y5y6y7y8y9x|SLANTED |FOR| TO",
    "HITTING |WALLPLANE |SOLIDUS|YEH FINAL FORM|ANGLE |PERSET|TpXppPpRXq|RIGHT-POINTING |TRIANGLE ARROWHEAD",
    "SPOKED ASTERISKa| WITH TAIL|NUMB|EQUILATERAL ARROWHEAD|PHIEUPH| ROTATED |NIGHT|DIAERESIS|LOCK",
    "FLOORPLANE |NORTH WEST|CONSONANT|DAGESH|MINUS|LEAF| FROM BAR|SIMPLIFIED |NINETY DEGREES|ALTERNAT|THUMB",
    " TO |SLASH|ApHA|WARDS |AuUuIuAAuEEvuO|SANS-SERIF|THIRD|AtHAs| TO BAR|NUMBER ONE|THUMB SIDE|OLD COPTIC ",
    "TRIANGULAR |MULTIPL|ING FACEa|ASTERISK|ANGLE BRACKET|ToXooPoRXp|-CREE |IC LETTER |aUPPER |LEFTWARDS ",
    "AtUtItAAtEEutO|NEUTR|EUXv|RAISED |SINGLE+|ALTERNATE |CENTRE TO |LEFT TO LOWER |EXCLAMATION MARK|LOGICAL ",
    "DASIA|OPH|THIEUTH|CURLY BRACKET|FORTY|SIXTY|CHESS |UCK|XqqPo|FACE|SINGLE |CLOS|SYLLAB|EYES|RING LITTLE",
    "GRAPHIC |x7x8|PSILI| VARIANT FORM|HIEUCH|REVERSE |ULA|ULAR |HEEL|CIRCUMFLEX|TURN|TONOS|SOFT|CHAIC ",
    "RACTION |NUMBER TEN|NEGAT|CHAION|SHADOWED WHITE |ANTICLOCKWISE|TEGRAL|THOUSAND|FIVE |POINT",
    "TORTOISE SHELL|y2y3y4y5|ABBREVIA|OMICRON|oEXppP|AwHAv|WORD|CONTAIN|PSILON+|MOVEMENT| AND HOOK|NORTH EAST",
    "LESS |KAPPA|KASRA|VOWEL| ROTATED TWO HUNDRED SEVENTY DEGREES|FORWARD|INSULAR |QUEEN|GHAIN|ANTI|CENT",
    "1x2x3x4|HYPHEN|AuHAt|-VASr|SUBSET|BETWEEN|NESS|OUNT|ON+|rHINGE |KHIEUKH|CONJOINED| WITH LINE BELOW",
    "EVENTY|BLE |ALMOST |KRYZHE|IOTIFI|KOMI |ZERO|YODH|VETL|-HEAD|CONT|KAPH|AVAGRAHA|GRA|TY |CHARAC",
    "0e1e2e3e4e5e6e7e8e9|NATE |OBLIQUE |KAPYEOUN|ZAPYAT|TWELVE|SAMEKH|SADHE|NUMER|LE+|LAYk|LEFT TO | KOET",
    "NINETY|MUSIC|LENGTH MARK|OUBLE DANDA|ONE EIGHTH BLOCK|LAMEDH|CANDRA|QUADRANT|MILING |ORNAMENT|HARPOON",
    "U+dO+dE+eE+dI+dA+|DIALYTIKA|SPADES|POVODN|BULLET| ISOLATED FORMsFINAL FORMsINITIAL FORMsMEDIAL FORMo",
    "0v1v2v3v4v5v6v7v8v9u| OF CLUBS|BISHOP|A+aHAz|YRILLIC |VERSE |LOCKWISE|UM | AND RIGHT|IGHT| THROUGH ",
    "SUCCEEDS|PRECEDES|SMALL|r5r6r7r8r9|LOZENGE|DALETH|PANSIOS|CRESCENT|AqHAp| DEGREES|QUARTER |-1v2v3v4",
    "EQUIVALENT TOa|ELLIPS|TELEPHONE|CHESS KNIGHT ROTATED |THETA SYMBOL|SUPERSCRIPT |RTAGS|EIGHTHS BLOCK",
    "1y2y3y4y5y6y7y8y9|POINTING |ROTATED |FIVE FINGERS SPREAD|AsEsIsOsU|0r1r2r3r4|S ICHOS+|KATAKANA",
    "DOUBLE-STRUCK |y7y8y9x|tCARRIER |GAN2 TENU|SIXTEENTH| OF HEARTSn| OF DIAMONDSn|ED WHITE |4x5x6|DUCT",
    "HApNNApTAqHApDAqHApN|LEFT-STEM TONE BAR|pYApRApLAp|AtIuItUuUt|WRIST FLEX+|tNASKAPI |HIRAGANA ",
    "YANNApMAHAAPRAANA |tFINAL FORMtINITIAL FORMtMEDIAL FORMo|PARALLEL| SALTIRE|ToXooPnEXooPnUToXooPoRXp",
    "u1u2u3u4u5u6u7u8u9t| TWELFTHS+|AnSIMALUNGUN|CRYPTOGRAMMIC |uIVEtSIXuEVENtEIGHTtNINE|tSAYISI |ENVELOPE",
    " OF BAMBOOS|YIG MGO|VIYANIo|IToXooPoETpXppPn|YANNApALPAPRAANA |AvAuWEtWEST-CREE |7yAx8x9w|POSTROPHE",
    " WITH CROSSED-TAIL|OLD NUBIAN |2x3yAx4x5x6| OF CHARACTERS",
    " ISOLATED FORMuFINAL FORMuINITIAL FORMuMEDIAL FORM|v7v8v9|AqHApGAqHApNGApCAqHApJAqHApNYA|nSHORT-TWIG-",
    "ToXooPnUOXppPnO|NORMAL SUBGROUP|yDyEyFyGyH|d1d2d3d4d5d6d7d8d9c|VOWEL SIGN VOCALIC L+|PINWHEEL STARa",
    "ApPAqHApBAqHApMA|rErIrOrUr|pIqIpUqUp|LENTICULAR BRACKET|APPROXIMATE|DIALECT-P|EuAAIuIvIuOvOtY-CREE ",
    "VOICED SOUND MARK|EXTENSION|ABKHASIAN |REVERS|VOIC|pIVEoSIXpEVENoEIGHToNINE|TENDED ARABIC-INDIC ",
    "I+bU+bE+bO+a|z2z3z4z5z6|vIVEuSIXvEVENuEIGHTuNINE|rIVEqSIXrEVENqEIGHTqNINE|qTUAREG YA",
    "qIVEpSIXqEVENpEIGHTpNINE|nIVEmSIXnEVENmEIGHTmNINE|aJAPANESE |ExIxOxUxVw|AsIsUsEsOr|pTTArHApDDAr",
    "90t1t2t3t4t5t6t7t8t|0+b1+b2+b3+b4+b5+b6|NEPOSTOYANNAYA|MALO POVYSHE|ArIsIrUsU|ArIrUrErO",
    "U+cO+cE+dE+cI+cA+b|HITTING FRONT WALL|iDIGIT ZEROoONEoTWOpHREEoFOUR|ZpCpQpXo| POWERS OF FOUR| LONSUMu",
    "ITpXppPpETqXqqPo| WITH JEEM INITIAL FORMzHAH INITIAL FORMzKHAH INITIAL FORMz|EPENDENT SVARITA",
    " KHOKHLOM ON |IAL DIFFERENTI|EVICE CONTROL |dL+dM+dN+d|IHVAMULIYA|EXTREMELY |UPADHMANIYA| MAHAPRANAq",
    " DODEKATA+g|zIVEySIXzEVENyEIGHTyNINE|oIVEnSIXoEVENnEIGHTnNINE|mIVElSIXmEVENlEIGHTlNINE",
    "lIVEkSIXlEVENkEIGHTkNINE|LONG-BRANCH-|VApSHAqSAqApHA|vIvAAvEEw|sItIsUtUs|AqIrIqUrU| PLASTICS+a",
    "oTWOpHREEoFOURpIVEoSIXpEVENoEIGHToNINE|YPOGEGRAMMENI|SEMIDIRECT PRODUCT|tIVEsSIXtEVENsEIGHTsNINE",
    "y6y7zAy8y9|w5w6w7w8w9|hW+hX+hY+h|hS+hT+hU+h|hO+hP+hQ+h|hK+hL+hM+h|hG+hH+hI+h|hC+hD+hE+h|dV+dW+dX+d",
    "D+dE+dF+dG|2+c3+c4+c5|TWO HUNDRED |BLOCK|AIuIvIuOvO|O+cE+dE+cI|HIEU|NYApTTArHApDDAr|1t2t3t4t5t6t7t8t9",
    "EQUIVAL|2r3r4r5r6r|OS ICHOS|APRAANA |r4r5r6r7r8|r3r4r5r6r7|3r4r5r6r7r|t4t5t6t7t8|u2u3u4u5u6|ApYApRApLA",
    "d2d3d4d5d6|yAyByCyDyEyF"]

end ChangeReview.Text
