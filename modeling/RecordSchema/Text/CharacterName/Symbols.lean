/-! Names of punctuation, signs, symbols and shapes. -/

namespace RecordSchema.Text.CharacterName

def symbols : String := "2000;EN QUAD;EM QUAD;EN SPACE;EM SPACE;THREE-PER-EM SPACE;FOUR-PER-EM SPACE;SIX-PER-EM SPACE
2007;FIGURE SPACE;PUNCTUATION SPACE;THIN SPACE;HAIR SPACE;ZERO WIDTH SPACE;bNON-JOINER;bJOINER
200E;LEFT-TO-RIGHT MARK;RIGHT-TO-LEFT MARK;HYPHEN;NON-BREAKING HYPHEN;FIGURE DASH;EN DASH;EM DASH
2015;HORIZONTAL BAR;DOUBLE VERTICAL LINE;aLOW LINE;LEFT SINGLE QUOTATION MARK
2019;RIGHT SINGLE QUOTATION MARK;SINGLE LOW-9 QUOTATION MARK;aHIGH-REVERSED-9 QUOTATION MARK
201C;LEFT DOUBLE QUOTATION MARK;RIGHT DOUBLE QUOTATION MARK;DOUBLE LOW-9 QUOTATION MARK
201F;DOUBLE HIGH-REVERSED-9 QUOTATION MARK;DAGGER;DOUBLE DAGGER;BULLET;TRIANGULAR BULLET
2024;ONE DOT LEADER;TWO DOT LEADER;HORIZONTAL ELLIPSIS;HYPHENATION POINT;LINE SEPARATOR
2029;PARAGRAPH SEPARATOR;LEFT-TO-RIGHT EMBEDDING;RIGHT-TO-LEFT EMBEDDING
202C;POP DIRECTIONAL FORMATTING;LEFT-TO-RIGHT OVERRIDE;RIGHT-TO-LEFT OVERRIDE
202F;NARROW NO-BREAK SPACE;PER MILLE SIGN;aTEN THOUSAND SIGN;PRIME;DOUBLE PRIME;TRIPLE PRIME
2035;REVERSED PRIME;aDOUBLE PRIME;aTRIPLE PRIME;CARET;SINGLE LEFT-POINTING ANGLE QUOTATION MARK
203A;SINGLE RIGHT-POINTING ANGLE QUOTATION MARK;REFERENCE MARK;DOUBLE EXCLAMATION MARK;INTERROBANG
203E;OVERLINE;UNDERTIE;CHARACTER TIE;CARET INSERTION POINT;ASTERISM;HYPHEN BULLET;FRACTION SLASH
2045;LEFT SQUARE BRACKET WITH QUILL;RIGHT SQUARE BRACKET WITH QUILL;DOUBLE QUESTION MARK
2048;QUESTION EXCLAMATION MARK;EXCLAMATION QUESTION MARK;TIRONIAN SIGN ET;REVERSED PILCROW SIGN
204C;BLACK LEFTWARDS BULLET;aRIGHTWARDS BULLET;LOW ASTERISK;REVERSED SEMICOLON;CLOSE UP
2051;TWO ASTERISKS ALIGNED VERTICALLY;COMMERCIAL MINUS SIGN;SWUNG DASH;INVERTED UNDERTIE
2055;FLOWER PUNCTUATION MARK;THREE DOT PUNCTUATION;QUADRUPLE PRIME;FOUR DOT PUNCTUATION
2059;FIVE DOT PUNCTUATION;TWO DOT PUNCTUATION;FOUR DOT MARK;DOTTED CROSS;TRICOLON
205E;VERTICAL FOUR DOTS;MEDIUM MATHEMATICAL SPACE;WORD JOINER;FUNCTION APPLICATION;INVISIBLE TIMES
2063;INVISIBLE SEPARATOR;aPLUS
2066;LEFT-TO-RIGHT ISOLATE;RIGHT-TO-LEFT ISOLATE;FIRST STRONG ISOLATE;POP DIRECTIONAL ISOLATE
206A;INHIBIT SYMMETRIC SWAPPING;ACTIVATE SYMMETRIC SWAPPING;INHIBIT ARABIC FORM SHAPING
206D;ACTIVATE ARABIC FORM SHAPING;NATIONAL DIGIT SHAPES;NOMINAL DIGIT SHAPES;SUPERSCRIPT ZERO
2071;SUPERSCRIPT LATIN SMALL LETTER I
2074;SUPERSCRIPT FOUR;aFIVE;aSIX;aSEVEN;aEIGHT;aNINE;aPLUS SIGN;aMINUS;aEQUALS SIGN
207D;SUPERSCRIPT LEFT PARENTHESIS;aRIGHT PARENTHESIS;aLATIN SMALL LETTER N;SUBSCRIPT ZERO;aONE
2082;SUBSCRIPT TWO;aTHREE;aFOUR;aFIVE;aSIX;aSEVEN;aEIGHT;aNINE;aPLUS SIGN;aMINUS;aEQUALS SIGN
208D;SUBSCRIPT LEFT PARENTHESIS;aRIGHT PARENTHESIS
2090;LATIN SUBSCRIPT SMALL LETTER A;dE;dO;dX;dSCHWA;dH;dK;dL;dM;dN;dP;dS;dT
20A0;EURO-CURRENCY SIGN;COLON SIGN;CRUZEIRO SIGN;FRENCH FRANC SIGN;LIRA SIGN;MILL SIGN;NAIRA SIGN
20A7;PESETA SIGN;RUPEE SIGN;WON SIGN;NEW SHEQEL SIGN;DONG SIGN;EURO SIGN;KIP SIGN;TUGRIK SIGN
20AF;DRACHMA SIGN;GERMAN PENNY SIGN;PESO SIGN;GUARANI SIGN;AUSTRAL SIGN;HRYVNIA SIGN;CEDI SIGN
20B6;LIVRE TOURNOIS SIGN;SPESMILO SIGN;TENGE SIGN;INDIAN RUPEE SIGN;TURKISH LIRA SIGN
20BB;NORDIC MARK SIGN;MANAT SIGN;RUBLE SIGN;LARI SIGN;BITCOIN SIGN;SOM SIGN
20D0;COMBINING LEFT HARPOON ABOVE;aRIGHT HARPOON ABOVE;aLONG VERTICAL LINE OVERLAY
20D3;COMBINING SHORT VERTICAL LINE OVERLAY;aANTICLOCKWISE ARROW ABOVE;aCLOCKWISE ARROW ABOVE
20D6;COMBINING LEFT ARROW ABOVE;aRIGHT ARROW ABOVE;aRING OVERLAY;aCLOCKWISE RING OVERLAY
20DA;COMBINING ANTICLOCKWISE RING OVERLAY;aTHREE DOTS ABOVE;aFOUR DOTS ABOVE;aENCLOSING CIRCLE
20DE;COMBINING ENCLOSING SQUARE;bDIAMOND;bCIRCLE BACKSLASH;aLEFT RIGHT ARROW ABOVE
20E2;COMBINING ENCLOSING SCREEN;bKEYCAP;bUPWARD POINTING TRIANGLE;aREVERSE SOLIDUS OVERLAY
20E6;COMBINING DOUBLE VERTICAL STROKE OVERLAY;aANNUITY SYMBOL;aTRIPLE UNDERDOT;aWIDE BRIDGE ABOVE
20EA;COMBINING LEFTWARDS ARROW OVERLAY;aLONG DOUBLE SOLIDUS OVERLAY
20EC;COMBINING RIGHTWARDS HARPOON WITH BARB DOWNWARDS;aLEFTWARDS HARPOON WITH BARB DOWNWARDS
20EE;COMBINING LEFT ARROW BELOW;aRIGHT ARROW BELOW;aASTERISK ABOVE
2100;ACCOUNT OF;ADDRESSED TO THE SUBJECT;DOUBLE-STRUCK CAPITAL C;DEGREE CELSIUS;CENTRE LINE SYMBOL
2105;CARE OF;CADA UNA;EULER CONSTANT;SCRUPLE;DEGREE FAHRENHEIT;SCRIPT SMALL G;aCAPITAL H
210C;BLACK-LETTER CAPITAL H;DOUBLE-STRUCK CAPITAL H;PLANCK CONSTANT;bOVER TWO PI;SCRIPT CAPITAL I
2111;BLACK-LETTER CAPITAL I;SCRIPT CAPITAL L;aSMALL L;L B BAR SYMBOL;DOUBLE-STRUCK CAPITAL N
2116;NUMERO SIGN;SOUND RECORDING COPYRIGHT;SCRIPT CAPITAL P;DOUBLE-STRUCK CAPITAL P;bQ
211B;SCRIPT CAPITAL R;BLACK-LETTER CAPITAL R;DOUBLE-STRUCK CAPITAL R;PRESCRIPTION TAKE;RESPONSE
2120;SERVICE MARK;TELEPHONE SIGN;TRADE MARK SIGN;VERSICLE;DOUBLE-STRUCK CAPITAL Z;OUNCE SIGN
2126;OHM SIGN;INVERTED OHM SIGN;BLACK-LETTER CAPITAL Z;TURNED GREEK SMALL LETTER IOTA;KELVIN SIGN
212B;ANGSTROM SIGN;SCRIPT CAPITAL B;BLACK-LETTER CAPITAL C;ESTIMATED SYMBOL;SCRIPT SMALL E
2130;SCRIPT CAPITAL E;bF;TURNED CAPITAL F;SCRIPT CAPITAL M;aSMALL O;ALEF SYMBOL;BET SYMBOL
2137;GIMEL SYMBOL;DALET SYMBOL;INFORMATION SOURCE;ROTATED CAPITAL Q;FACSIMILE SIGN
213C;DOUBLE-STRUCK SMALL PI;bGAMMA;aCAPITAL GAMMA;bPI;aN-ARY SUMMATION;TURNED SANS-SERIF CAPITAL G
2142;TURNED SANS-SERIF CAPITAL L;REVERSED SANS-SERIF CAPITAL L;TURNED SANS-SERIF CAPITAL Y
2145;DOUBLE-STRUCK ITALIC CAPITAL D;bSMALL D;cE;cI;cJ;PROPERTY LINE;TURNED AMPERSAND;PER SIGN
214D;AKTIESELSKAB;TURNED SMALL F;SYMBOL FOR SAMARITAN SOURCE;VULGAR FRACTION ONE SEVENTH;cNINTH
2152;VULGAR FRACTION ONE TENTH;cTHIRD;bTWO THIRDS;bONE FIFTH;bTWO FIFTHS;bTHREE FIFTHS
2158;VULGAR FRACTION FOUR FIFTHS;bONE SIXTH;bFIVE SIXTHS;bONE EIGHTH;bTHREE EIGHTHS;bFIVE EIGHTHS
215E;VULGAR FRACTION SEVEN EIGHTHS;FRACTION NUMERATOR ONE;ROMAN NUMERAL ONE;bTWO;bTHREE;bFOUR
2164;ROMAN NUMERAL FIVE;bSIX;bSEVEN;bEIGHT;bNINE;bTEN;bELEVEN;bTWELVE;bFIFTY;bONE HUNDRED
216E;ROMAN NUMERAL FIVE HUNDRED;bONE THOUSAND;SMALL ROMAN NUMERAL ONE;cTWO;cTHREE;cFOUR;cFIVE;cSIX
2176;SMALL ROMAN NUMERAL SEVEN;cEIGHT;cNINE;cTEN;cELEVEN;cTWELVE;cFIFTY;cONE HUNDRED;cFIVE HUNDRED
217F;SMALL ROMAN NUMERAL ONE THOUSAND;ROMAN NUMERAL ONE THOUSAND C D;bFIVE THOUSAND;bTEN THOUSAND
2183;ROMAN NUMERAL REVERSED ONE HUNDRED;LATIN SMALL LETTER REVERSED C;ROMAN NUMERAL SIX LATE FORM
2186;ROMAN NUMERAL FIFTY EARLY FORM;cTHOUSAND;bONE HUNDRED THOUSAND;VULGAR FRACTION ZERO THIRDS
218A;TURNED DIGIT TWO;bTHREE
2190;LEFTWARDS ARROW;UPWARDS ARROW;RIGHTWARDS ARROW;DOWNWARDS ARROW;LEFT RIGHT ARROW;UP DOWN ARROW
2196;NORTH WEST ARROW;aEAST ARROW;SOUTH EAST ARROW;aWEST ARROW;LEFTWARDS ARROW WITH STROKE
219B;RIGHTWARDS ARROW WITH STROKE;LEFTWARDS WAVE ARROW;RIGHTWARDS WAVE ARROW
219E;LEFTWARDS TWO HEADED ARROW;UPWARDS TWO HEADED ARROW;RIGHTWARDS TWO HEADED ARROW
21A1;DOWNWARDS TWO HEADED ARROW;LEFTWARDS ARROW WITH TAIL;RIGHTWARDS ARROW WITH TAIL
21A4;LEFTWARDS ARROW FROM BAR;UPWARDS ARROW FROM BAR;RIGHTWARDS ARROW FROM BAR
21A7;DOWNWARDS ARROW FROM BAR;UP DOWN ARROW WITH BASE;LEFTWARDS ARROW WITH HOOK
21AA;RIGHTWARDS ARROW WITH HOOK;LEFTWARDS ARROW WITH LOOP;RIGHTWARDS ARROW WITH LOOP
21AD;LEFT RIGHT WAVE ARROW;bARROW WITH STROKE;DOWNWARDS ZIGZAG ARROW
21B0;UPWARDS ARROW WITH TIP LEFTWARDS;dRIGHTWARDS;DOWNWARDS ARROW WITH TIP LEFTWARDS;dRIGHTWARDS
21B4;RIGHTWARDS ARROW WITH CORNER DOWNWARDS;DOWNWARDS ARROW WITH CORNER LEFTWARDS
21B6;ANTICLOCKWISE TOP SEMICIRCLE ARROW;CLOCKWISE TOP SEMICIRCLE ARROW
21B8;NORTH WEST ARROW TO LONG BAR;LEFTWARDS ARROW TO BAR OVER RIGHTWARDS ARROW TO BAR
21BA;ANTICLOCKWISE OPEN CIRCLE ARROW;CLOCKWISE OPEN CIRCLE ARROW
21BC;LEFTWARDS HARPOON WITH BARB UPWARDS;dDOWNWARDS;UPWARDS HARPOON WITH BARB RIGHTWARDS
21BF;UPWARDS HARPOON WITH BARB LEFTWARDS;RIGHTWARDS HARPOON WITH BARB UPWARDS;dDOWNWARDS
21C2;DOWNWARDS HARPOON WITH BARB RIGHTWARDS;dLEFTWARDS;RIGHTWARDS ARROW OVER LEFTWARDS ARROW
21C5;UPWARDS ARROW LEFTWARDS OF DOWNWARDS ARROW;LEFTWARDS ARROW OVER RIGHTWARDS ARROW
21C7;LEFTWARDS PAIRED ARROWS;UPWARDS PAIRED ARROWS;RIGHTWARDS PAIRED ARROWS
21CA;DOWNWARDS PAIRED ARROWS;LEFTWARDS HARPOON OVER RIGHTWARDS HARPOON
21CC;RIGHTWARDS HARPOON OVER LEFTWARDS HARPOON;LEFTWARDS DOUBLE ARROW WITH STROKE
21CE;LEFT RIGHT DOUBLE ARROW WITH STROKE;RIGHTWARDS DOUBLE ARROW WITH STROKE
21D0;LEFTWARDS DOUBLE ARROW;UPWARDS DOUBLE ARROW;RIGHTWARDS DOUBLE ARROW;DOWNWARDS DOUBLE ARROW
21D4;LEFT RIGHT DOUBLE ARROW;UP DOWN DOUBLE ARROW;NORTH WEST DOUBLE ARROW;aEAST DOUBLE ARROW
21D8;SOUTH EAST DOUBLE ARROW;aWEST DOUBLE ARROW;LEFTWARDS TRIPLE ARROW;RIGHTWARDS TRIPLE ARROW
21DC;LEFTWARDS SQUIGGLE ARROW;RIGHTWARDS SQUIGGLE ARROW;UPWARDS ARROW WITH DOUBLE STROKE
21DF;DOWNWARDS ARROW WITH DOUBLE STROKE;LEFTWARDS DASHED ARROW;UPWARDS DASHED ARROW
21E2;RIGHTWARDS DASHED ARROW;DOWNWARDS DASHED ARROW;LEFTWARDS ARROW TO BAR;RIGHTWARDS ARROW TO BAR
21E6;LEFTWARDS WHITE ARROW;UPWARDS WHITE ARROW;RIGHTWARDS WHITE ARROW;DOWNWARDS WHITE ARROW
21EA;UPWARDS WHITE ARROW FROM BAR;cON PEDESTAL;eWITH HORIZONTAL BAR;fVERTICAL BAR;bDOUBLE ARROW
21EF;UPWARDS WHITE DOUBLE ARROW ON PEDESTAL;RIGHTWARDS WHITE ARROW FROM WALL
21F1;NORTH WEST ARROW TO CORNER;SOUTH EAST ARROW TO CORNER;UP DOWN WHITE ARROW
21F4;RIGHT ARROW WITH SMALL CIRCLE;DOWNWARDS ARROW LEFTWARDS OF UPWARDS ARROW
21F6;THREE RIGHTWARDS ARROWS;LEFTWARDS ARROW WITH VERTICAL STROKE
21F8;RIGHTWARDS ARROW WITH VERTICAL STROKE;LEFT RIGHT ARROW WITH VERTICAL STROKE
21FA;LEFTWARDS ARROW WITH DOUBLE VERTICAL STROKE;RIGHTWARDS ARROW WITH DOUBLE VERTICAL STROKE
21FC;LEFT RIGHT ARROW WITH DOUBLE VERTICAL STROKE;LEFTWARDS OPEN-HEADED ARROW
21FE;RIGHTWARDS OPEN-HEADED ARROW;LEFT RIGHT OPEN-HEADED ARROW;FOR ALL;COMPLEMENT
2202;PARTIAL DIFFERENTIAL;THERE EXISTS;aDOES NOT EXIST;EMPTY SET;INCREMENT;NABLA;ELEMENT OF
2209;NOT AN ELEMENT OF;SMALL ELEMENT OF;CONTAINS AS MEMBER;DOES NOT CONTAIN AS MEMBER
220D;SMALL CONTAINS AS MEMBER;END OF PROOF;N-ARY PRODUCT;aCOPRODUCT;aSUMMATION;MINUS SIGN
2213;MINUS-OR-PLUS SIGN;DOT PLUS;DIVISION SLASH;SET MINUS;ASTERISK OPERATOR;RING OPERATOR
2219;BULLET OPERATOR;SQUARE ROOT;CUBE ROOT;FOURTH ROOT;PROPORTIONAL TO;INFINITY;RIGHT ANGLE;ANGLE
2221;MEASURED ANGLE;SPHERICAL ANGLE;DIVIDES;DOES NOT DIVIDE;PARALLEL TO;NOT PARALLEL TO
2227;LOGICAL AND;aOR;INTERSECTION;UNION;INTEGRAL;DOUBLE INTEGRAL;TRIPLE INTEGRAL;CONTOUR INTEGRAL
222F;SURFACE INTEGRAL;VOLUME INTEGRAL;CLOCKWISE INTEGRAL;aCONTOUR INTEGRAL
2233;ANTICLOCKWISE CONTOUR INTEGRAL;THEREFORE;BECAUSE;RATIO;PROPORTION;DOT MINUS;EXCESS
223A;GEOMETRIC PROPORTION;HOMOTHETIC;TILDE OPERATOR;REVERSED TILDE;INVERTED LAZY S;SINE WAVE
2240;WREATH PRODUCT;NOT TILDE;MINUS TILDE;ASYMPTOTICALLY EQUAL TO;NOT ASYMPTOTICALLY EQUAL TO
2245;APPROXIMATELY EQUAL TO;aBUT NOT ACTUALLY EQUAL TO;NEITHER APPROXIMATELY NOR ACTUALLY EQUAL TO
2248;ALMOST EQUAL TO;NOT ALMOST EQUAL TO;ALMOST EQUAL OR EQUAL TO;TRIPLE TILDE;ALL EQUAL TO
224D;EQUIVALENT TO;GEOMETRICALLY EQUIVALENT TO;DIFFERENCE BETWEEN;APPROACHES THE LIMIT
2251;GEOMETRICALLY EQUAL TO;APPROXIMATELY EQUAL TO OR THE IMAGE OF
2253;IMAGE OF OR APPROXIMATELY EQUAL TO;COLON EQUALS;EQUALS COLON;RING IN EQUAL TO;aEQUAL TO
2258;CORRESPONDS TO;ESTIMATES;EQUIANGULAR TO;STAR EQUALS;DELTA EQUAL TO;EQUAL TO BY DEFINITION
225E;MEASURED BY;QUESTIONED EQUAL TO;NOT EQUAL TO;IDENTICAL TO;NOT IDENTICAL TO
2263;STRICTLY EQUIVALENT TO;LESS-THAN OR EQUAL TO;GREATER-THAN OR EQUAL TO;LESS-THAN OVER EQUAL TO
2267;GREATER-THAN OVER EQUAL TO;LESS-THAN BUT NOT EQUAL TO;GREATER-THAN BUT NOT EQUAL TO
226A;MUCH LESS-THAN;aGREATER-THAN;BETWEEN;NOT EQUIVALENT TO;aLESS-THAN;aGREATER-THAN
2270;NEITHER LESS-THAN NOR EQUAL TO;aGREATER-THAN NOR EQUAL TO;LESS-THAN OR EQUIVALENT TO
2273;GREATER-THAN OR EQUIVALENT TO;NEITHER LESS-THAN NOR EQUIVALENT TO
2275;NEITHER GREATER-THAN NOR EQUIVALENT TO;LESS-THAN OR GREATER-THAN;GREATER-THAN OR LESS-THAN
2278;NEITHER LESS-THAN NOR GREATER-THAN;aGREATER-THAN NOR LESS-THAN;PRECEDES;SUCCEEDS
227C;PRECEDES OR EQUAL TO;SUCCEEDS OR EQUAL TO;PRECEDES OR EQUIVALENT TO;SUCCEEDS OR EQUIVALENT TO
2280;DOES NOT PRECEDE;bSUCCEED;SUBSET OF;SUPERSET OF;NOT A SUBSET OF;bSUPERSET OF
2286;SUBSET OF OR EQUAL TO;SUPERSET OF OR EQUAL TO;NEITHER A SUBSET OF NOR EQUAL TO
2289;NEITHER A SUPERSET OF NOR EQUAL TO;SUBSET OF WITH NOT EQUAL TO;SUPERSET OF WITH NOT EQUAL TO
228C;MULTISET;aMULTIPLICATION;aUNION;SQUARE IMAGE OF;aORIGINAL OF;aIMAGE OF OR EQUAL TO
2292;SQUARE ORIGINAL OF OR EQUAL TO;aCAP;aCUP;CIRCLED PLUS;aMINUS;aTIMES;aDIVISION SLASH
2299;CIRCLED DOT OPERATOR;aRING OPERATOR;aASTERISK OPERATOR;aEQUALS;aDASH;SQUARED PLUS;aMINUS
22A0;SQUARED TIMES;aDOT OPERATOR;RIGHT TACK;LEFT TACK;DOWN TACK;UP TACK;ASSERTION;MODELS;TRUE
22A9;FORCES;TRIPLE VERTICAL BAR RIGHT TURNSTILE;DOUBLE VERTICAL BAR DOUBLE RIGHT TURNSTILE
22AC;DOES NOT PROVE;NOT TRUE;DOES NOT FORCE;NEGATED DOUBLE VERTICAL BAR DOUBLE RIGHT TURNSTILE
22B0;PRECEDES UNDER RELATION;SUCCEEDS UNDER RELATION;NORMAL SUBGROUP OF
22B3;CONTAINS AS NORMAL SUBGROUP;NORMAL SUBGROUP OF OR EQUAL TO
22B5;CONTAINS AS NORMAL SUBGROUP OR EQUAL TO;ORIGINAL OF;IMAGE OF;MULTIMAP
22B9;HERMITIAN CONJUGATE MATRIX;INTERCALATE;XOR;NAND;NOR;RIGHT ANGLE WITH ARC;aTRIANGLE
22C0;N-ARY LOGICAL AND;bOR;aINTERSECTION;aUNION;DIAMOND OPERATOR;DOT OPERATOR;STAR OPERATOR
22C7;DIVISION TIMES;BOWTIE;LEFT NORMAL FACTOR SEMIDIRECT PRODUCT
22CA;RIGHT NORMAL FACTOR SEMIDIRECT PRODUCT;LEFT SEMIDIRECT PRODUCT;RIGHT SEMIDIRECT PRODUCT
22CD;REVERSED TILDE EQUALS;CURLY LOGICAL OR;bAND;DOUBLE SUBSET;aSUPERSET;aINTERSECTION;aUNION
22D4;PITCHFORK;EQUAL AND PARALLEL TO;LESS-THAN WITH DOT;GREATER-THAN WITH DOT;VERY MUCH LESS-THAN
22D9;VERY MUCH GREATER-THAN;LESS-THAN EQUAL TO OR GREATER-THAN;GREATER-THAN EQUAL TO OR LESS-THAN
22DC;EQUAL TO OR LESS-THAN;cGREATER-THAN;cPRECEDES;cSUCCEEDS;DOES NOT PRECEDE OR EQUAL
22E1;DOES NOT SUCCEED OR EQUAL;NOT SQUARE IMAGE OF OR EQUAL TO;bORIGINAL OF OR EQUAL TO
22E4;SQUARE IMAGE OF OR NOT EQUAL TO;aORIGINAL OF OR NOT EQUAL TO;LESS-THAN BUT NOT EQUIVALENT TO
22E7;GREATER-THAN BUT NOT EQUIVALENT TO;PRECEDES BUT NOT EQUIVALENT TO
22E9;SUCCEEDS BUT NOT EQUIVALENT TO;NOT NORMAL SUBGROUP OF;DOES NOT CONTAIN AS NORMAL SUBGROUP
22EC;NOT NORMAL SUBGROUP OF OR EQUAL TO;DOES NOT CONTAIN AS NORMAL SUBGROUP OR EQUAL
22EE;VERTICAL ELLIPSIS;MIDLINE HORIZONTAL ELLIPSIS;UP RIGHT DIAGONAL ELLIPSIS
22F1;DOWN RIGHT DIAGONAL ELLIPSIS;ELEMENT OF WITH LONG HORIZONTAL STROKE
22F3;ELEMENT OF WITH VERTICAL BAR AT END OF HORIZONTAL STROKE
22F4;SMALL ELEMENT OF WITH VERTICAL BAR AT END OF HORIZONTAL STROKE;ELEMENT OF WITH DOT ABOVE
22F6;ELEMENT OF WITH OVERBAR;SMALL ELEMENT OF WITH OVERBAR;ELEMENT OF WITH UNDERBAR
22F9;ELEMENT OF WITH TWO HORIZONTAL STROKES;CONTAINS WITH LONG HORIZONTAL STROKE
22FB;CONTAINS WITH VERTICAL BAR AT END OF HORIZONTAL STROKE
22FC;SMALL CONTAINS WITH VERTICAL BAR AT END OF HORIZONTAL STROKE;CONTAINS WITH OVERBAR
22FE;SMALL CONTAINS WITH OVERBAR;Z NOTATION BAG MEMBERSHIP;DIAMETER SIGN;ELECTRIC ARROW;HOUSE
2303;UP ARROWHEAD;DOWN ARROWHEAD;PROJECTIVE;PERSPECTIVE;WAVY LINE;LEFT CEILING;RIGHT CEILING
230A;LEFT FLOOR;RIGHT FLOOR;BOTTOM RIGHT CROP;aLEFT CROP;TOP RIGHT CROP;aLEFT CROP
2310;REVERSED NOT SIGN;SQUARE LOZENGE;ARC;SEGMENT;SECTOR;TELEPHONE RECORDER;POSITION INDICATOR
2317;VIEWDATA SQUARE;PLACE OF INTEREST SIGN;TURNED NOT SIGN;WATCH;HOURGLASS;TOP LEFT CORNER
231D;TOP RIGHT CORNER;BOTTOM LEFT CORNER;aRIGHT CORNER;TOP HALF INTEGRAL;BOTTOM HALF INTEGRAL
2322;FROWN;SMILE;UP ARROWHEAD BETWEEN TWO HORIZONTAL BARS;OPTION KEY;ERASE TO THE RIGHT
2327;X IN A RECTANGLE BOX;KEYBOARD;LEFT-POINTING ANGLE BRACKET;RIGHT-POINTING ANGLE BRACKET
232B;ERASE TO THE LEFT;BENZENE RING;CYLINDRICITY;ALL AROUND-PROFILE;SYMMETRY;TOTAL RUNOUT
2331;DIMENSION ORIGIN;CONICAL TAPER;SLOPE;COUNTERBORE;COUNTERSINK;APL FUNCTIONAL SYMBOL I-BEAM
2337;APL FUNCTIONAL SYMBOL SQUISH QUAD;cQUAD EQUAL;dDIVIDE;dDIAMOND;dJOT;dCIRCLE;cCIRCLE STILE
233E;APL FUNCTIONAL SYMBOL CIRCLE JOT;cSLASH BAR;cBACKSLASH BAR;cQUAD SLASH;dBACKSLASH;dLESS-THAN
2344;APL FUNCTIONAL SYMBOL QUAD GREATER-THAN;cLEFTWARDS VANE;cRIGHTWARDS VANE
2347;APL FUNCTIONAL SYMBOL QUAD LEFTWARDS ARROW;dRIGHTWARDS ARROW;cCIRCLE BACKSLASH
234A;APL FUNCTIONAL SYMBOL DOWN TACK UNDERBAR;cDELTA STILE;cQUAD DOWN CARET;dDELTA;cDOWN TACK JOT
234F;APL FUNCTIONAL SYMBOL UPWARDS VANE;cQUAD UPWARDS ARROW;cUP TACK OVERBAR;cDEL STILE
2353;APL FUNCTIONAL SYMBOL QUAD UP CARET;dDEL;cUP TACK JOT;cDOWNWARDS VANE;cQUAD DOWNWARDS ARROW
2358;APL FUNCTIONAL SYMBOL QUOTE UNDERBAR;cDELTA UNDERBAR;cDIAMOND UNDERBAR;cJOT UNDERBAR
235C;APL FUNCTIONAL SYMBOL CIRCLE UNDERBAR;cUP SHOE JOT;cQUOTE QUAD;cCIRCLE STAR;cQUAD COLON
2361;APL FUNCTIONAL SYMBOL UP TACK DIAERESIS;cDEL DIAERESIS;cSTAR DIAERESIS;cJOT DIAERESIS
2365;APL FUNCTIONAL SYMBOL CIRCLE DIAERESIS;cDOWN SHOE STILE;cLEFT SHOE STILE;cTILDE DIAERESIS
2369;APL FUNCTIONAL SYMBOL GREATER-THAN DIAERESIS;cCOMMA BAR;cDEL TILDE;cZILDE;cSTILE TILDE
236E;APL FUNCTIONAL SYMBOL SEMICOLON UNDERBAR;cQUAD NOT EQUAL;dQUESTION;cDOWN CARET TILDE
2372;APL FUNCTIONAL SYMBOL UP CARET TILDE;cIOTA;cRHO;cOMEGA;cALPHA UNDERBAR;cEPSILON UNDERBAR
2378;APL FUNCTIONAL SYMBOL IOTA UNDERBAR;cOMEGA UNDERBAR;cALPHA;NOT CHECK MARK
237C;RIGHT ANGLE WITH DOWNWARDS ZIGZAG ARROW;SHOULDERED OPEN BOX;BELL SYMBOL
237F;VERTICAL LINE WITH MIDDLE DOT;INSERTION SYMBOL;CONTINUOUS UNDERLINE SYMBOL
2382;DISCONTINUOUS UNDERLINE SYMBOL;EMPHASIS SYMBOL;COMPOSITION SYMBOL
2385;WHITE SQUARE WITH CENTRE VERTICAL LINE;ENTER SYMBOL;ALTERNATIVE KEY SYMBOL;HELM SYMBOL
2389;CIRCLED HORIZONTAL BAR WITH NOTCH;aTRIANGLE DOWN;BROKEN CIRCLE WITH NORTHWEST ARROW
238C;UNDO SYMBOL;MONOSTABLE SYMBOL;HYSTERESIS SYMBOL;OPEN-CIRCUIT-OUTPUT H-TYPE SYMBOL
2390;OPEN-CIRCUIT-OUTPUT L-TYPE SYMBOL;PASSIVE-PULL-DOWN-OUTPUT SYMBOL
2392;PASSIVE-PULL-UP-OUTPUT SYMBOL;DIRECT CURRENT SYMBOL FORM TWO;SOFTWARE-FUNCTION SYMBOL
2395;APL FUNCTIONAL SYMBOL QUAD;DECIMAL SEPARATOR KEY SYMBOL;PREVIOUS PAGE;NEXT PAGE
2399;PRINT SCREEN SYMBOL;CLEAR SCREEN SYMBOL;LEFT PARENTHESIS UPPER HOOK;bEXTENSION;bLOWER HOOK
239E;RIGHT PARENTHESIS UPPER HOOK;bEXTENSION;bLOWER HOOK;LEFT SQUARE BRACKET UPPER CORNER
23A2;LEFT SQUARE BRACKET EXTENSION;cLOWER CORNER;RIGHT SQUARE BRACKET UPPER CORNER;cEXTENSION
23A6;RIGHT SQUARE BRACKET LOWER CORNER;LEFT CURLY BRACKET UPPER HOOK;cMIDDLE PIECE;cLOWER HOOK
23AA;CURLY BRACKET EXTENSION;RIGHT CURLY BRACKET UPPER HOOK;cMIDDLE PIECE;cLOWER HOOK
23AE;INTEGRAL EXTENSION;HORIZONTAL LINE EXTENSION;UPPER LEFT OR LOWER RIGHT CURLY BRACKET SECTION
23B1;UPPER RIGHT OR LOWER LEFT CURLY BRACKET SECTION;SUMMATION TOP;aBOTTOM;TOP SQUARE BRACKET
23B5;BOTTOM SQUARE BRACKET;cOVER TOP SQUARE BRACKET;RADICAL SYMBOL BOTTOM;LEFT VERTICAL BOX LINE
23B9;RIGHT VERTICAL BOX LINE;HORIZONTAL SCAN LINE-1;bLINE-3;bLINE-7;bLINE-9
23BE;DENTISTRY SYMBOL LIGHT VERTICAL AND TOP RIGHT;eBOTTOM RIGHT;dWITH CIRCLE
23C1;DENTISTRY SYMBOL LIGHT DOWN AND HORIZONTAL WITH CIRCLE;cUP AND HORIZONTAL WITH CIRCLE
23C3;DENTISTRY SYMBOL LIGHT VERTICAL WITH TRIANGLE;cDOWN AND HORIZONTAL WITH TRIANGLE
23C5;DENTISTRY SYMBOL LIGHT UP AND HORIZONTAL WITH TRIANGLE;cVERTICAL AND WAVE
23C7;DENTISTRY SYMBOL LIGHT DOWN AND HORIZONTAL WITH WAVE;cUP AND HORIZONTAL WITH WAVE
23C9;DENTISTRY SYMBOL LIGHT DOWN AND HORIZONTAL;cUP AND HORIZONTAL;cVERTICAL AND TOP LEFT
23CC;DENTISTRY SYMBOL LIGHT VERTICAL AND BOTTOM LEFT;SQUARE FOOT;RETURN SYMBOL;EJECT SYMBOL
23D0;VERTICAL LINE EXTENSION;METRICAL BREVE;aLONG OVER SHORT;aSHORT OVER LONG
23D4;METRICAL LONG OVER TWO SHORTS;aTWO SHORTS OVER LONG;cJOINED;aTRISEME;aTETRASEME;aPENTASEME
23DA;EARTH GROUND;FUSE;TOP PARENTHESIS;BOTTOM PARENTHESIS;TOP CURLY BRACKET;BOTTOM CURLY BRACKET
23E0;TOP TORTOISE SHELL BRACKET;BOTTOM TORTOISE SHELL BRACKET;WHITE TRAPEZIUM
23E3;BENZENE RING WITH CIRCLE;STRAIGHTNESS;FLATNESS;AC CURRENT;ELECTRICAL INTERSECTION
23E8;DECIMAL EXPONENT SYMBOL;BLACK RIGHT-POINTING DOUBLE TRIANGLE;aLEFT-POINTING DOUBLE TRIANGLE
23EB;BLACK UP-POINTING DOUBLE TRIANGLE;aDOWN-POINTING DOUBLE TRIANGLE
23ED;BLACK RIGHT-POINTING DOUBLE TRIANGLE WITH VERTICAL BAR
23EE;BLACK LEFT-POINTING DOUBLE TRIANGLE WITH VERTICAL BAR
23EF;BLACK RIGHT-POINTING TRIANGLE WITH DOUBLE VERTICAL BAR;ALARM CLOCK;STOPWATCH;TIMER CLOCK
23F3;HOURGLASS WITH FLOWING SAND;BLACK MEDIUM LEFT-POINTING TRIANGLE;bRIGHT-POINTING TRIANGLE
23F6;BLACK MEDIUM UP-POINTING TRIANGLE;bDOWN-POINTING TRIANGLE;DOUBLE VERTICAL BAR
23F9;BLACK SQUARE FOR STOP;aCIRCLE FOR RECORD;POWER SYMBOL;aON-OFF SYMBOL;aON SYMBOL;aSLEEP SYMBOL
23FF;OBSERVER EYE SYMBOL;SYMBOL FOR NULL;bSTART OF HEADING;dTEXT;bEND OF TEXT;dTRANSMISSION
2405;SYMBOL FOR ENQUIRY;bACKNOWLEDGE;bBELL;bBACKSPACE;bHORIZONTAL TABULATION;bLINE FEED
240B;SYMBOL FOR VERTICAL TABULATION;bFORM FEED;bCARRIAGE RETURN;bSHIFT OUT;cIN;bDATA LINK ESCAPE
2411;SYMBOL FOR DEVICE CONTROL ONE;dTWO;dTHREE;dFOUR;bNEGATIVE ACKNOWLEDGE;bSYNCHRONOUS IDLE
2417;SYMBOL FOR END OF TRANSMISSION BLOCK;bCANCEL;bEND OF MEDIUM;bSUBSTITUTE;bESCAPE
241C;SYMBOL FOR FILE SEPARATOR;bGROUP SEPARATOR;bRECORD SEPARATOR;bUNIT SEPARATOR;bSPACE;bDELETE
2422;BLANK SYMBOL;OPEN BOX;SYMBOL FOR NEWLINE;bDELETE FORM TWO;bSUBSTITUTE FORM TWO
2440;OCR HOOK;aCHAIR;aFORK;aINVERTED FORK;aBELT BUCKLE;aBOW TIE;aBRANCH BANK IDENTIFICATION
2447;OCR AMOUNT OF CHECK;aDASH;aCUSTOMER ACCOUNT NUMBER;aDOUBLE BACKSLASH
2460;CIRCLED DIGIT ONE;bTWO;bTHREE;bFOUR;bFIVE;bSIX;bSEVEN;bEIGHT;bNINE;aNUMBER TEN;bELEVEN
246B;CIRCLED NUMBER TWELVE;bTHIRTEEN;bFOURTEEN;bFIFTEEN;bSIXTEEN;bSEVENTEEN;bEIGHTEEN;bNINETEEN
2473;CIRCLED NUMBER TWENTY;PARENTHESIZED DIGIT ONE;bTWO;bTHREE;bFOUR;bFIVE;bSIX;bSEVEN;bEIGHT
247C;PARENTHESIZED DIGIT NINE;aNUMBER TEN;bELEVEN;bTWELVE;bTHIRTEEN;bFOURTEEN;bFIFTEEN;bSIXTEEN
2484;PARENTHESIZED NUMBER SEVENTEEN;bEIGHTEEN;bNINETEEN;bTWENTY;DIGIT ONE FULL STOP;aTWO FULL STOP
248A;DIGIT THREE FULL STOP;aFOUR FULL STOP;aFIVE FULL STOP;aSIX FULL STOP;aSEVEN FULL STOP
248F;DIGIT EIGHT FULL STOP;aNINE FULL STOP;NUMBER TEN FULL STOP;aELEVEN FULL STOP
2493;NUMBER TWELVE FULL STOP;aTHIRTEEN FULL STOP;aFOURTEEN FULL STOP;aFIFTEEN FULL STOP
2497;NUMBER SIXTEEN FULL STOP;aSEVENTEEN FULL STOP;aEIGHTEEN FULL STOP;aNINETEEN FULL STOP
249B;NUMBER TWENTY FULL STOP;PARENTHESIZED LATIN SMALL LETTER A;dB;dC;dD;dE;dF;dG;dH;dI;dJ;dK;dL
24A8;PARENTHESIZED LATIN SMALL LETTER M;dN;dO;dP;dQ;dR;dS;dT;dU;dV;dW;dX;dY;dZ
24B6;CIRCLED LATIN CAPITAL LETTER A;dB;dC;dD;dE;dF;dG;dH;dI;dJ;dK;dL;dM;dN;dO;dP;dQ;dR;dS;dT;dU;dV
24CC;CIRCLED LATIN CAPITAL LETTER W;dX;dY;dZ;bSMALL LETTER A;dB;dC;dD;dE;dF;dG;dH;dI;dJ;dK;dL;dM
24DD;CIRCLED LATIN SMALL LETTER N;dO;dP;dQ;dR;dS;dT;dU;dV;dW;dX;dY;dZ;aDIGIT ZERO
24EB;NEGATIVE CIRCLED NUMBER ELEVEN;cTWELVE;cTHIRTEEN;cFOURTEEN;cFIFTEEN;cSIXTEEN;cSEVENTEEN
24F2;NEGATIVE CIRCLED NUMBER EIGHTEEN;cNINETEEN;cTWENTY;DOUBLE CIRCLED DIGIT ONE;cTWO;cTHREE;cFOUR
24F9;DOUBLE CIRCLED DIGIT FIVE;cSIX;cSEVEN;cEIGHT;cNINE;bNUMBER TEN;NEGATIVE CIRCLED DIGIT ZERO
2500;BOX DRAWINGS LIGHT HORIZONTAL;bHEAVY HORIZONTAL;bLIGHT VERTICAL;bHEAVY VERTICAL
2504;BOX DRAWINGS LIGHT TRIPLE DASH HORIZONTAL;bHEAVY TRIPLE DASH HORIZONTAL
2506;BOX DRAWINGS LIGHT TRIPLE DASH VERTICAL;bHEAVY TRIPLE DASH VERTICAL
2508;BOX DRAWINGS LIGHT QUADRUPLE DASH HORIZONTAL;bHEAVY QUADRUPLE DASH HORIZONTAL
250A;BOX DRAWINGS LIGHT QUADRUPLE DASH VERTICAL;bHEAVY QUADRUPLE DASH VERTICAL
250C;BOX DRAWINGS LIGHT DOWN AND RIGHT;bDOWN LIGHT AND RIGHT HEAVY;cHEAVY AND RIGHT LIGHT
250F;BOX DRAWINGS HEAVY DOWN AND RIGHT;bLIGHT DOWN AND LEFT;bDOWN LIGHT AND LEFT HEAVY
2512;BOX DRAWINGS DOWN HEAVY AND LEFT LIGHT;bHEAVY DOWN AND LEFT;bLIGHT UP AND RIGHT
2515;BOX DRAWINGS UP LIGHT AND RIGHT HEAVY;cHEAVY AND RIGHT LIGHT;bHEAVY UP AND RIGHT
2518;BOX DRAWINGS LIGHT UP AND LEFT;bUP LIGHT AND LEFT HEAVY;cHEAVY AND LEFT LIGHT
251B;BOX DRAWINGS HEAVY UP AND LEFT;bLIGHT VERTICAL AND RIGHT;bVERTICAL LIGHT AND RIGHT HEAVY
251E;BOX DRAWINGS UP HEAVY AND RIGHT DOWN LIGHT;bDOWN HEAVY AND RIGHT UP LIGHT
2520;BOX DRAWINGS VERTICAL HEAVY AND RIGHT LIGHT;bDOWN LIGHT AND RIGHT UP HEAVY
2522;BOX DRAWINGS UP LIGHT AND RIGHT DOWN HEAVY;bHEAVY VERTICAL AND RIGHT;bLIGHT VERTICAL AND LEFT
2525;BOX DRAWINGS VERTICAL LIGHT AND LEFT HEAVY;bUP HEAVY AND LEFT DOWN LIGHT
2527;BOX DRAWINGS DOWN HEAVY AND LEFT UP LIGHT;bVERTICAL HEAVY AND LEFT LIGHT
2529;BOX DRAWINGS DOWN LIGHT AND LEFT UP HEAVY;bUP LIGHT AND LEFT DOWN HEAVY
252B;BOX DRAWINGS HEAVY VERTICAL AND LEFT;bLIGHT DOWN AND HORIZONTAL
252D;BOX DRAWINGS LEFT HEAVY AND RIGHT DOWN LIGHT;bRIGHT HEAVY AND LEFT DOWN LIGHT
252F;BOX DRAWINGS DOWN LIGHT AND HORIZONTAL HEAVY;cHEAVY AND HORIZONTAL LIGHT
2531;BOX DRAWINGS RIGHT LIGHT AND LEFT DOWN HEAVY;bLEFT LIGHT AND RIGHT DOWN HEAVY
2533;BOX DRAWINGS HEAVY DOWN AND HORIZONTAL;bLIGHT UP AND HORIZONTAL
2535;BOX DRAWINGS LEFT HEAVY AND RIGHT UP LIGHT;bRIGHT HEAVY AND LEFT UP LIGHT
2537;BOX DRAWINGS UP LIGHT AND HORIZONTAL HEAVY;cHEAVY AND HORIZONTAL LIGHT
2539;BOX DRAWINGS RIGHT LIGHT AND LEFT UP HEAVY;bLEFT LIGHT AND RIGHT UP HEAVY
253B;BOX DRAWINGS HEAVY UP AND HORIZONTAL;bLIGHT VERTICAL AND HORIZONTAL
253D;BOX DRAWINGS LEFT HEAVY AND RIGHT VERTICAL LIGHT;bRIGHT HEAVY AND LEFT VERTICAL LIGHT
253F;BOX DRAWINGS VERTICAL LIGHT AND HORIZONTAL HEAVY;bUP HEAVY AND DOWN HORIZONTAL LIGHT
2541;BOX DRAWINGS DOWN HEAVY AND UP HORIZONTAL LIGHT;bVERTICAL HEAVY AND HORIZONTAL LIGHT
2543;BOX DRAWINGS LEFT UP HEAVY AND RIGHT DOWN LIGHT;bRIGHT UP HEAVY AND LEFT DOWN LIGHT
2545;BOX DRAWINGS LEFT DOWN HEAVY AND RIGHT UP LIGHT;bRIGHT DOWN HEAVY AND LEFT UP LIGHT
2547;BOX DRAWINGS DOWN LIGHT AND UP HORIZONTAL HEAVY;bUP LIGHT AND DOWN HORIZONTAL HEAVY
2549;BOX DRAWINGS RIGHT LIGHT AND LEFT VERTICAL HEAVY;bLEFT LIGHT AND RIGHT VERTICAL HEAVY
254B;BOX DRAWINGS HEAVY VERTICAL AND HORIZONTAL;bLIGHT DOUBLE DASH HORIZONTAL
254D;BOX DRAWINGS HEAVY DOUBLE DASH HORIZONTAL;bLIGHT DOUBLE DASH VERTICAL
254F;BOX DRAWINGS HEAVY DOUBLE DASH VERTICAL;bDOUBLE HORIZONTAL;cVERTICAL
2552;BOX DRAWINGS DOWN SINGLE AND RIGHT DOUBLE;cDOUBLE AND RIGHT SINGLE;bDOUBLE DOWN AND RIGHT
2555;BOX DRAWINGS DOWN SINGLE AND LEFT DOUBLE;cDOUBLE AND LEFT SINGLE;bDOUBLE DOWN AND LEFT
2558;BOX DRAWINGS UP SINGLE AND RIGHT DOUBLE;cDOUBLE AND RIGHT SINGLE;bDOUBLE UP AND RIGHT
255B;BOX DRAWINGS UP SINGLE AND LEFT DOUBLE;cDOUBLE AND LEFT SINGLE;bDOUBLE UP AND LEFT
255E;BOX DRAWINGS VERTICAL SINGLE AND RIGHT DOUBLE;cDOUBLE AND RIGHT SINGLE
2560;BOX DRAWINGS DOUBLE VERTICAL AND RIGHT;bVERTICAL SINGLE AND LEFT DOUBLE
2562;BOX DRAWINGS VERTICAL DOUBLE AND LEFT SINGLE;bDOUBLE VERTICAL AND LEFT
2564;BOX DRAWINGS DOWN SINGLE AND HORIZONTAL DOUBLE;cDOUBLE AND HORIZONTAL SINGLE
2566;BOX DRAWINGS DOUBLE DOWN AND HORIZONTAL;bUP SINGLE AND HORIZONTAL DOUBLE
2568;BOX DRAWINGS UP DOUBLE AND HORIZONTAL SINGLE;bDOUBLE UP AND HORIZONTAL
256A;BOX DRAWINGS VERTICAL SINGLE AND HORIZONTAL DOUBLE;cDOUBLE AND HORIZONTAL SINGLE
256C;BOX DRAWINGS DOUBLE VERTICAL AND HORIZONTAL;bLIGHT ARC DOWN AND RIGHT;fLEFT;dUP AND LEFT
2570;BOX DRAWINGS LIGHT ARC UP AND RIGHT;cDIAGONAL UPPER RIGHT TO LOWER LEFT;eLEFT TO LOWER RIGHT
2573;BOX DRAWINGS LIGHT DIAGONAL CROSS;cLEFT;cUP;cRIGHT;cDOWN;bHEAVY LEFT;cUP;cRIGHT;cDOWN
257C;BOX DRAWINGS LIGHT LEFT AND HEAVY RIGHT;cUP AND HEAVY DOWN;bHEAVY LEFT AND LIGHT RIGHT
257F;BOX DRAWINGS HEAVY UP AND LIGHT DOWN;UPPER HALF BLOCK;LOWER ONE EIGHTH BLOCK;bQUARTER BLOCK
2583;LOWER THREE EIGHTHS BLOCK;aHALF BLOCK;aFIVE EIGHTHS BLOCK;aTHREE QUARTERS BLOCK
2587;LOWER SEVEN EIGHTHS BLOCK;FULL BLOCK;LEFT SEVEN EIGHTHS BLOCK;aTHREE QUARTERS BLOCK
258B;LEFT FIVE EIGHTHS BLOCK;aHALF BLOCK;aTHREE EIGHTHS BLOCK;aONE QUARTER BLOCK;bEIGHTH BLOCK
2590;RIGHT HALF BLOCK;LIGHT SHADE;MEDIUM SHADE;DARK SHADE;UPPER ONE EIGHTH BLOCK
2595;RIGHT ONE EIGHTH BLOCK;QUADRANT LOWER LEFT;bRIGHT;aUPPER LEFT;cAND LOWER LEFT AND LOWER RIGHT
259A;QUADRANT UPPER LEFT AND LOWER RIGHT;dUPPER RIGHT AND LOWER LEFT;hRIGHT;bRIGHT;cAND LOWER LEFT
259F;QUADRANT UPPER RIGHT AND LOWER LEFT AND LOWER RIGHT;BLACK SQUARE;WHITE SQUARE
25A2;WHITE SQUARE WITH ROUNDED CORNERS;bCONTAINING BLACK SMALL SQUARE;SQUARE WITH HORIZONTAL FILL
25A5;SQUARE WITH VERTICAL FILL;bORTHOGONAL CROSSHATCH FILL;bUPPER LEFT TO LOWER RIGHT FILL
25A8;SQUARE WITH UPPER RIGHT TO LOWER LEFT FILL;bDIAGONAL CROSSHATCH FILL;BLACK SMALL SQUARE
25AB;WHITE SMALL SQUARE;BLACK RECTANGLE;WHITE RECTANGLE;BLACK VERTICAL RECTANGLE
25AF;WHITE VERTICAL RECTANGLE;BLACK PARALLELOGRAM;WHITE PARALLELOGRAM;BLACK UP-POINTING TRIANGLE
25B3;WHITE UP-POINTING TRIANGLE;BLACK UP-POINTING SMALL TRIANGLE;WHITE UP-POINTING SMALL TRIANGLE
25B6;BLACK RIGHT-POINTING TRIANGLE;WHITE RIGHT-POINTING TRIANGLE
25B8;BLACK RIGHT-POINTING SMALL TRIANGLE;WHITE RIGHT-POINTING SMALL TRIANGLE
25BA;BLACK RIGHT-POINTING POINTER;WHITE RIGHT-POINTING POINTER;BLACK DOWN-POINTING TRIANGLE
25BD;WHITE DOWN-POINTING TRIANGLE;BLACK DOWN-POINTING SMALL TRIANGLE
25BF;WHITE DOWN-POINTING SMALL TRIANGLE;BLACK LEFT-POINTING TRIANGLE;WHITE LEFT-POINTING TRIANGLE
25C2;BLACK LEFT-POINTING SMALL TRIANGLE;WHITE LEFT-POINTING SMALL TRIANGLE
25C4;BLACK LEFT-POINTING POINTER;WHITE LEFT-POINTING POINTER;BLACK DIAMOND;WHITE DIAMOND
25C8;WHITE DIAMOND CONTAINING BLACK SMALL DIAMOND;FISHEYE;LOZENGE;WHITE CIRCLE;DOTTED CIRCLE
25CD;CIRCLE WITH VERTICAL FILL;BULLSEYE;BLACK CIRCLE;CIRCLE WITH LEFT HALF BLACK;bRIGHT HALF BLACK
25D2;CIRCLE WITH LOWER HALF BLACK;bUPPER HALF BLACK;cRIGHT QUADRANT BLACK
25D5;CIRCLE WITH ALL BUT UPPER LEFT QUADRANT BLACK;LEFT HALF BLACK CIRCLE;RIGHT HALF BLACK CIRCLE
25D8;INVERSE BULLET;aWHITE CIRCLE;UPPER HALF INVERSE WHITE CIRCLE;LOWER HALF INVERSE WHITE CIRCLE
25DC;UPPER LEFT QUADRANT CIRCULAR ARC;aRIGHT QUADRANT CIRCULAR ARC
25DE;LOWER RIGHT QUADRANT CIRCULAR ARC;aLEFT QUADRANT CIRCULAR ARC;UPPER HALF CIRCLE
25E1;LOWER HALF CIRCLE;BLACK LOWER RIGHT TRIANGLE;bLEFT TRIANGLE;aUPPER LEFT TRIANGLE
25E5;BLACK UPPER RIGHT TRIANGLE;WHITE BULLET;SQUARE WITH LEFT HALF BLACK;bRIGHT HALF BLACK
25E9;SQUARE WITH UPPER LEFT DIAGONAL HALF BLACK;bLOWER RIGHT DIAGONAL HALF BLACK
25EB;WHITE SQUARE WITH VERTICAL BISECTING LINE;aUP-POINTING TRIANGLE WITH DOT
25ED;UP-POINTING TRIANGLE WITH LEFT HALF BLACK;cRIGHT HALF BLACK;LARGE CIRCLE
25F0;WHITE SQUARE WITH UPPER LEFT QUADRANT;cLOWER LEFT QUADRANT;dRIGHT QUADRANT
25F3;WHITE SQUARE WITH UPPER RIGHT QUADRANT;aCIRCLE WITH UPPER LEFT QUADRANT;cLOWER LEFT QUADRANT
25F6;WHITE CIRCLE WITH LOWER RIGHT QUADRANT;cUPPER RIGHT QUADRANT;UPPER LEFT TRIANGLE
25F9;UPPER RIGHT TRIANGLE;LOWER LEFT TRIANGLE;WHITE MEDIUM SQUARE;BLACK MEDIUM SQUARE
25FD;WHITE MEDIUM SMALL SQUARE;BLACK MEDIUM SMALL SQUARE;LOWER RIGHT TRIANGLE;BLACK SUN WITH RAYS
2601;CLOUD;UMBRELLA;SNOWMAN;COMET;BLACK STAR;WHITE STAR;LIGHTNING;THUNDERSTORM;SUN;ASCENDING NODE
260B;DESCENDING NODE;CONJUNCTION;OPPOSITION;BLACK TELEPHONE;WHITE TELEPHONE;BALLOT BOX;bWITH CHECK
2612;BALLOT BOX WITH X;SALTIRE;UMBRELLA WITH RAIN DROPS;HOT BEVERAGE;WHITE SHOGI PIECE
2617;BLACK SHOGI PIECE;SHAMROCK;REVERSED ROTATED FLORAL HEART BULLET;BLACK LEFT POINTING INDEX
261B;BLACK RIGHT POINTING INDEX;WHITE LEFT POINTING INDEX;aUP POINTING INDEX;aRIGHT POINTING INDEX
261F;WHITE DOWN POINTING INDEX;SKULL AND CROSSBONES;CAUTION SIGN;RADIOACTIVE SIGN;BIOHAZARD SIGN
2624;CADUCEUS;ANKH;ORTHODOX CROSS;CHI RHO;CROSS OF LORRAINE;bJERUSALEM;STAR AND CRESCENT
262B;FARSI SYMBOL;ADI SHAKTI;HAMMER AND SICKLE;PEACE SYMBOL;YIN YANG;TRIGRAM FOR HEAVEN;bLAKE
2632;TRIGRAM FOR FIRE;bTHUNDER;bWIND;bWATER;bMOUNTAIN;bEARTH;WHEEL OF DHARMA;WHITE FROWNING FACE
263A;WHITE SMILING FACE;BLACK SMILING FACE;WHITE SUN WITH RAYS;FIRST QUARTER MOON
263E;LAST QUARTER MOON;MERCURY;FEMALE SIGN;EARTH;MALE SIGN;JUPITER;SATURN;URANUS;NEPTUNE;PLUTO
2648;ARIES;TAURUS;GEMINI;CANCER;LEO;VIRGO;LIBRA;SCORPIUS;SAGITTARIUS;CAPRICORN;AQUARIUS;PISCES
2654;WHITE CHESS KING;bQUEEN;bROOK;bBISHOP;bKNIGHT;bPAWN;BLACK CHESS KING;bQUEEN;bROOK;bBISHOP
265E;BLACK CHESS KNIGHT;bPAWN;aSPADE SUIT;WHITE HEART SUIT;aDIAMOND SUIT;BLACK CLUB SUIT
2664;WHITE SPADE SUIT;BLACK HEART SUIT;aDIAMOND SUIT;WHITE CLUB SUIT;HOT SPRINGS;QUARTER NOTE
266A;EIGHTH NOTE;BEAMED EIGHTH NOTES;aSIXTEENTH NOTES;MUSIC FLAT SIGN;aNATURAL SIGN;aSHARP SIGN
2670;WEST SYRIAC CROSS;EAST SYRIAC CROSS;UNIVERSAL RECYCLING SYMBOL
2673;RECYCLING SYMBOL FOR TYPE-1 PLASTICS;cTYPE-2 PLASTICS;cTYPE-3 PLASTICS;cTYPE-4 PLASTICS
2677;RECYCLING SYMBOL FOR TYPE-5 PLASTICS;cTYPE-6 PLASTICS;cTYPE-7 PLASTICS;cGENERIC MATERIALS
267B;BLACK UNIVERSAL RECYCLING SYMBOL;RECYCLED PAPER SYMBOL;PARTIALLY-RECYCLED PAPER SYMBOL
267E;PERMANENT PAPER SIGN;WHEELCHAIR SYMBOL;DIE FACE-1;aFACE-2;aFACE-3;aFACE-4;aFACE-5;aFACE-6
2686;WHITE CIRCLE WITH DOT RIGHT;cTWO DOTS;BLACK CIRCLE WITH WHITE DOT RIGHT;cTWO WHITE DOTS
268A;MONOGRAM FOR YANG;bYIN;DIGRAM FOR GREATER YANG;bLESSER YIN;cYANG;bGREATER YIN;WHITE FLAG
2691;BLACK FLAG;HAMMER AND PICK;ANCHOR;CROSSED SWORDS;STAFF OF AESCULAPIUS;SCALES;ALEMBIC;FLOWER
2699;GEAR;STAFF OF HERMES;ATOM SYMBOL;FLEUR-DE-LIS;OUTLINED WHITE STAR
269E;THREE LINES CONVERGING RIGHT;cLEFT;WARNING SIGN;HIGH VOLTAGE SIGN;DOUBLED FEMALE SIGN
26A3;DOUBLED MALE SIGN;INTERLOCKED FEMALE AND MALE SIGN;MALE AND FEMALE SIGN;aWITH STROKE SIGN
26A7;MALE WITH STROKE AND MALE AND FEMALE SIGN;VERTICAL MALE WITH STROKE SIGN
26A9;HORIZONTAL MALE WITH STROKE SIGN;MEDIUM WHITE CIRCLE;aBLACK CIRCLE;aSMALL WHITE CIRCLE
26AD;MARRIAGE SYMBOL;DIVORCE SYMBOL;UNMARRIED PARTNERSHIP SYMBOL;COFFIN;FUNERAL URN;NEUTER;CERES
26B4;PALLAS;JUNO;VESTA;CHIRON;BLACK MOON LILITH;SEXTILE;SEMISEXTILE;QUINCUNX;SESQUIQUADRATE
26BD;SOCCER BALL;BASEBALL;SQUARED KEY;WHITE DRAUGHTS MAN;bKING;BLACK DRAUGHTS MAN;bKING
26C4;SNOWMAN WITHOUT SNOW;SUN BEHIND CLOUD;RAIN;BLACK SNOWMAN;THUNDER CLOUD AND RAIN
26C9;TURNED WHITE SHOGI PIECE;aBLACK SHOGI PIECE;WHITE DIAMOND IN SQUARE;CROSSING LANES
26CD;DISABLED CAR;OPHIUCHUS;PICK;CAR SLIDING;HELMET WITH WHITE CROSS;CIRCLED CROSSING LANES;CHAINS
26D4;NO ENTRY;ALTERNATE ONE-WAY LEFT WAY TRAFFIC;BLACK TWO-WAY LEFT WAY TRAFFIC
26D7;WHITE TWO-WAY LEFT WAY TRAFFIC;BLACK LEFT LANE MERGE;WHITE LEFT LANE MERGE;DRIVE SLOW SIGN
26DB;HEAVY WHITE DOWN-POINTING TRIANGLE;LEFT CLOSED ENTRY;SQUARED SALTIRE
26DE;FALLING DIAGONAL IN WHITE CIRCLE IN BLACK SQUARE;BLACK TRUCK;RESTRICTED LEFT ENTRY-1;bENTRY-2
26E2;ASTRONOMICAL SYMBOL FOR URANUS;HEAVY CIRCLE WITH STROKE AND TWO DOTS ABOVE;PENTAGRAM
26E5;RIGHT-HANDED INTERLACED PENTAGRAM;LEFT-HANDED INTERLACED PENTAGRAM;INVERTED PENTAGRAM
26E8;BLACK CROSS ON SHIELD;SHINTO SHRINE;CHURCH;CASTLE;HISTORIC SITE;GEAR WITHOUT HUB
26EE;GEAR WITH HANDLES;MAP SYMBOL FOR LIGHTHOUSE;MOUNTAIN;UMBRELLA ON GROUND;FOUNTAIN;FLAG IN HOLE
26F4;FERRY;SAILBOAT;SQUARE FOUR CORNERS;SKIER;ICE SKATE;PERSON WITH BALL;TENT;JAPANESE BANK SYMBOL
26FC;HEADSTONE GRAVEYARD SYMBOL;FUEL PUMP;CUP ON BLACK SQUARE
26FF;WHITE FLAG WITH HORIZONTAL MIDDLE BLACK STRIPE;BLACK SAFETY SCISSORS;UPPER BLADE SCISSORS
2702;BLACK SCISSORS;LOWER BLADE SCISSORS;WHITE SCISSORS;aHEAVY CHECK MARK;TELEPHONE LOCATION SIGN
2707;TAPE DRIVE;AIRPLANE;ENVELOPE;RAISED FIST;aHAND;VICTORY HAND;WRITING HAND;LOWER RIGHT PENCIL
270F;PENCIL;UPPER RIGHT PENCIL;WHITE NIB;BLACK NIB;CHECK MARK;HEAVY CHECK MARK;MULTIPLICATION X
2716;HEAVY MULTIPLICATION X;BALLOT X;HEAVY BALLOT X;OUTLINED GREEK CROSS;HEAVY GREEK CROSS
271B;OPEN CENTRE CROSS;HEAVY OPEN CENTRE CROSS;LATIN CROSS;SHADOWED WHITE LATIN CROSS
271F;OUTLINED LATIN CROSS;MALTESE CROSS;STAR OF DAVID;FOUR TEARDROP-SPOKED ASTERISK
2723;FOUR BALLOON-SPOKED ASTERISK;HEAVY FOUR BALLOON-SPOKED ASTERISK;FOUR CLUB-SPOKED ASTERISK
2726;BLACK FOUR POINTED STAR;WHITE FOUR POINTED STAR;SPARKLES;STRESS OUTLINED WHITE STAR
272A;CIRCLED WHITE STAR;OPEN CENTRE BLACK STAR;BLACK CENTRE WHITE STAR;OUTLINED BLACK STAR
272E;HEAVY OUTLINED BLACK STAR;PINWHEEL STAR;SHADOWED WHITE STAR;HEAVY ASTERISK
2732;OPEN CENTRE ASTERISK;EIGHT SPOKED ASTERISK;aPOINTED BLACK STAR;bPINWHEEL STAR
2736;SIX POINTED BLACK STAR;EIGHT POINTED RECTILINEAR BLACK STAR
2738;HEAVY EIGHT POINTED RECTILINEAR BLACK STAR;TWELVE POINTED BLACK STAR;SIXTEEN POINTED ASTERISK
273B;TEARDROP-SPOKED ASTERISK;OPEN CENTRE TEARDROP-SPOKED ASTERISK;HEAVY TEARDROP-SPOKED ASTERISK
273E;SIX PETALLED BLACK AND WHITE FLORETTE;BLACK FLORETTE;WHITE FLORETTE
2741;EIGHT PETALLED OUTLINED BLACK FLORETTE;CIRCLED OPEN CENTRE EIGHT POINTED STAR
2743;HEAVY TEARDROP-SPOKED PINWHEEL ASTERISK;SNOWFLAKE;TIGHT TRIFOLIATE SNOWFLAKE
2746;HEAVY CHEVRON SNOWFLAKE;SPARKLE;HEAVY SPARKLE;BALLOON-SPOKED ASTERISK
274A;EIGHT TEARDROP-SPOKED PROPELLER ASTERISK;HEAVY EIGHT TEARDROP-SPOKED PROPELLER ASTERISK
274C;CROSS MARK;SHADOWED WHITE CIRCLE;NEGATIVE SQUARED CROSS MARK
274F;LOWER RIGHT DROP-SHADOWED WHITE SQUARE;UPPER RIGHT DROP-SHADOWED WHITE SQUARE
2751;LOWER RIGHT SHADOWED WHITE SQUARE;UPPER RIGHT SHADOWED WHITE SQUARE
2753;BLACK QUESTION MARK ORNAMENT;WHITE QUESTION MARK ORNAMENT;aEXCLAMATION MARK ORNAMENT
2756;BLACK DIAMOND MINUS WHITE X;HEAVY EXCLAMATION MARK SYMBOL;LIGHT VERTICAL BAR
2759;MEDIUM VERTICAL BAR;HEAVY VERTICAL BAR;aSINGLE TURNED COMMA QUOTATION MARK ORNAMENT
275C;HEAVY SINGLE COMMA QUOTATION MARK ORNAMENT;aDOUBLE TURNED COMMA QUOTATION MARK ORNAMENT
275E;HEAVY DOUBLE COMMA QUOTATION MARK ORNAMENT;aLOW SINGLE COMMA QUOTATION MARK ORNAMENT
2760;HEAVY LOW DOUBLE COMMA QUOTATION MARK ORNAMENT;CURVED STEM PARAGRAPH SIGN ORNAMENT
2762;HEAVY EXCLAMATION MARK ORNAMENT;aHEART EXCLAMATION MARK ORNAMENT;aBLACK HEART
2765;ROTATED HEAVY BLACK HEART BULLET;FLORAL HEART;ROTATED FLORAL HEART BULLET
2768;MEDIUM LEFT PARENTHESIS ORNAMENT;aRIGHT PARENTHESIS ORNAMENT
276A;MEDIUM FLATTENED LEFT PARENTHESIS ORNAMENT;bRIGHT PARENTHESIS ORNAMENT
276C;MEDIUM LEFT-POINTING ANGLE BRACKET ORNAMENT;aRIGHT-POINTING ANGLE BRACKET ORNAMENT
276E;HEAVY LEFT-POINTING ANGLE QUOTATION MARK ORNAMENT
276F;HEAVY RIGHT-POINTING ANGLE QUOTATION MARK ORNAMENT;aLEFT-POINTING ANGLE BRACKET ORNAMENT
2771;HEAVY RIGHT-POINTING ANGLE BRACKET ORNAMENT;LIGHT LEFT TORTOISE SHELL BRACKET ORNAMENT
2773;LIGHT RIGHT TORTOISE SHELL BRACKET ORNAMENT;MEDIUM LEFT CURLY BRACKET ORNAMENT
2775;MEDIUM RIGHT CURLY BRACKET ORNAMENT;DINGBAT NEGATIVE CIRCLED DIGIT ONE;dTWO;dTHREE;dFOUR
277A;DINGBAT NEGATIVE CIRCLED DIGIT FIVE;dSIX;dSEVEN;dEIGHT;dNINE;cNUMBER TEN
2780;DINGBAT CIRCLED SANS-SERIF DIGIT ONE;dTWO;dTHREE;dFOUR;dFIVE;dSIX;dSEVEN;dEIGHT;dNINE
2789;DINGBAT CIRCLED SANS-SERIF NUMBER TEN;aNEGATIVE CIRCLED SANS-SERIF DIGIT ONE;eTWO;eTHREE
278D;DINGBAT NEGATIVE CIRCLED SANS-SERIF DIGIT FOUR;eFIVE;eSIX;eSEVEN;eEIGHT;eNINE;dNUMBER TEN
2794;HEAVY WIDE-HEADED RIGHTWARDS ARROW;aPLUS SIGN;aMINUS SIGN;aDIVISION SIGN;aSOUTH EAST ARROW
2799;HEAVY RIGHTWARDS ARROW;aNORTH EAST ARROW;DRAFTING POINT RIGHTWARDS ARROW
279C;HEAVY ROUND-TIPPED RIGHTWARDS ARROW;TRIANGLE-HEADED RIGHTWARDS ARROW
279E;HEAVY TRIANGLE-HEADED RIGHTWARDS ARROW;DASHED TRIANGLE-HEADED RIGHTWARDS ARROW
27A0;HEAVY DASHED TRIANGLE-HEADED RIGHTWARDS ARROW;BLACK RIGHTWARDS ARROW
27A2;THREE-D TOP-LIGHTED RIGHTWARDS ARROWHEAD;aBOTTOM-LIGHTED RIGHTWARDS ARROWHEAD
27A4;BLACK RIGHTWARDS ARROWHEAD;HEAVY BLACK CURVED DOWNWARDS AND RIGHTWARDS ARROW
27A6;HEAVY BLACK CURVED UPWARDS AND RIGHTWARDS ARROW;SQUAT BLACK RIGHTWARDS ARROW
27A8;HEAVY CONCAVE-POINTED BLACK RIGHTWARDS ARROW;RIGHT-SHADED WHITE RIGHTWARDS ARROW
27AA;LEFT-SHADED WHITE RIGHTWARDS ARROW;BACK-TILTED SHADOWED WHITE RIGHTWARDS ARROW
27AC;FRONT-TILTED SHADOWED WHITE RIGHTWARDS ARROW
27AD;HEAVY LOWER RIGHT-SHADOWED WHITE RIGHTWARDS ARROW
27AE;HEAVY UPPER RIGHT-SHADOWED WHITE RIGHTWARDS ARROW
27AF;NOTCHED LOWER RIGHT-SHADOWED WHITE RIGHTWARDS ARROW;CURLY LOOP
27B1;NOTCHED UPPER RIGHT-SHADOWED WHITE RIGHTWARDS ARROW;CIRCLED HEAVY WHITE RIGHTWARDS ARROW
27B3;WHITE-FEATHERED RIGHTWARDS ARROW;BLACK-FEATHERED SOUTH EAST ARROW;aRIGHTWARDS ARROW
27B6;BLACK-FEATHERED NORTH EAST ARROW;HEAVY BLACK-FEATHERED SOUTH EAST ARROW;bRIGHTWARDS ARROW
27B9;HEAVY BLACK-FEATHERED NORTH EAST ARROW;TEARDROP-BARBED RIGHTWARDS ARROW
27BB;HEAVY TEARDROP-SHANKED RIGHTWARDS ARROW;WEDGE-TAILED RIGHTWARDS ARROW
27BD;HEAVY WEDGE-TAILED RIGHTWARDS ARROW;OPEN-OUTLINED RIGHTWARDS ARROW;DOUBLE CURLY LOOP
27C0;THREE DIMENSIONAL ANGLE;WHITE TRIANGLE CONTAINING SMALL WHITE TRIANGLE;PERPENDICULAR
27C3;OPEN SUBSET;aSUPERSET;LEFT S-SHAPED BAG DELIMITER;RIGHT S-SHAPED BAG DELIMITER
27C7;OR WITH DOT INSIDE;REVERSE SOLIDUS PRECEDING SUBSET;SUPERSET PRECEDING SOLIDUS
27CA;VERTICAL BAR WITH HORIZONTAL STROKE;MATHEMATICAL RISING DIAGONAL;LONG DIVISION
27CD;MATHEMATICAL FALLING DIAGONAL;SQUARED LOGICAL AND;bOR;WHITE DIAMOND WITH CENTRED DOT
27D1;AND WITH DOT;ELEMENT OF OPENING UPWARDS;LOWER RIGHT CORNER WITH DOT
27D4;UPPER LEFT CORNER WITH DOT;LEFT OUTER JOIN;RIGHT OUTER JOIN;FULL OUTER JOIN;LARGE UP TACK
27D9;LARGE DOWN TACK;LEFT AND RIGHT DOUBLE TURNSTILE;cTACK;aMULTIMAP;LONG RIGHT TACK;aLEFT TACK
27DF;UP TACK WITH CIRCLE ABOVE;LOZENGE DIVIDED BY HORIZONTAL RULE;WHITE CONCAVE-SIDED DIAMOND
27E2;WHITE CONCAVE-SIDED DIAMOND WITH LEFTWARDS TICK;dRIGHTWARDS TICK;aSQUARE WITH LEFTWARDS TICK
27E5;WHITE SQUARE WITH RIGHTWARDS TICK;MATHEMATICAL LEFT WHITE SQUARE BRACKET
27E7;MATHEMATICAL RIGHT WHITE SQUARE BRACKET;aLEFT ANGLE BRACKET;aRIGHT ANGLE BRACKET
27EA;MATHEMATICAL LEFT DOUBLE ANGLE BRACKET;aRIGHT DOUBLE ANGLE BRACKET
27EC;MATHEMATICAL LEFT WHITE TORTOISE SHELL BRACKET;aRIGHT WHITE TORTOISE SHELL BRACKET
27EE;MATHEMATICAL LEFT FLATTENED PARENTHESIS;aRIGHT FLATTENED PARENTHESIS;UPWARDS QUADRUPLE ARROW
27F1;DOWNWARDS QUADRUPLE ARROW;ANTICLOCKWISE GAPPED CIRCLE ARROW;CLOCKWISE GAPPED CIRCLE ARROW
27F4;RIGHT ARROW WITH CIRCLED PLUS;LONG LEFTWARDS ARROW;aRIGHTWARDS ARROW;aLEFT RIGHT ARROW
27F8;LONG LEFTWARDS DOUBLE ARROW;aRIGHTWARDS DOUBLE ARROW;aLEFT RIGHT DOUBLE ARROW
27FB;LONG LEFTWARDS ARROW FROM BAR;aRIGHTWARDS ARROW FROM BAR;aLEFTWARDS DOUBLE ARROW FROM BAR
27FE;LONG RIGHTWARDS DOUBLE ARROW FROM BAR;bSQUIGGLE ARROW;BRAILLE PATTERN BLANK;bDOTS-1;bDOTS-2
2803;BRAILLE PATTERN DOTS-12;bDOTS-3;bDOTS-13;bDOTS-23;bDOTS-123;bDOTS-4;bDOTS-14;bDOTS-24
280B;BRAILLE PATTERN DOTS-124;bDOTS-34;bDOTS-134;bDOTS-234;bDOTS-1234;bDOTS-5;bDOTS-15;bDOTS-25
2813;BRAILLE PATTERN DOTS-125;bDOTS-35;bDOTS-135;bDOTS-235;bDOTS-1235;bDOTS-45;bDOTS-145;bDOTS-245
281B;BRAILLE PATTERN DOTS-1245;bDOTS-345;bDOTS-1345;bDOTS-2345;bDOTS-12345;bDOTS-6;bDOTS-16
2822;BRAILLE PATTERN DOTS-26;bDOTS-126;bDOTS-36;bDOTS-136;bDOTS-236;bDOTS-1236;bDOTS-46;bDOTS-146
282A;BRAILLE PATTERN DOTS-246;bDOTS-1246;bDOTS-346;bDOTS-1346;bDOTS-2346;bDOTS-12346;bDOTS-56
2831;BRAILLE PATTERN DOTS-156;bDOTS-256;bDOTS-1256;bDOTS-356;bDOTS-1356;bDOTS-2356;bDOTS-12356
2838;BRAILLE PATTERN DOTS-456;bDOTS-1456;bDOTS-2456;bDOTS-12456;bDOTS-3456;bDOTS-13456;bDOTS-23456
283F;BRAILLE PATTERN DOTS-123456;bDOTS-7;bDOTS-17;bDOTS-27;bDOTS-127;bDOTS-37;bDOTS-137;bDOTS-237
2847;BRAILLE PATTERN DOTS-1237;bDOTS-47;bDOTS-147;bDOTS-247;bDOTS-1247;bDOTS-347;bDOTS-1347
284E;BRAILLE PATTERN DOTS-2347;bDOTS-12347;bDOTS-57;bDOTS-157;bDOTS-257;bDOTS-1257;bDOTS-357
2855;BRAILLE PATTERN DOTS-1357;bDOTS-2357;bDOTS-12357;bDOTS-457;bDOTS-1457;bDOTS-2457;bDOTS-12457
285C;BRAILLE PATTERN DOTS-3457;bDOTS-13457;bDOTS-23457;bDOTS-123457;bDOTS-67;bDOTS-167;bDOTS-267
2863;BRAILLE PATTERN DOTS-1267;bDOTS-367;bDOTS-1367;bDOTS-2367;bDOTS-12367;bDOTS-467;bDOTS-1467
286A;BRAILLE PATTERN DOTS-2467;bDOTS-12467;bDOTS-3467;bDOTS-13467;bDOTS-23467;bDOTS-123467
2870;BRAILLE PATTERN DOTS-567;bDOTS-1567;bDOTS-2567;bDOTS-12567;bDOTS-3567;bDOTS-13567;bDOTS-23567
2877;BRAILLE PATTERN DOTS-123567;bDOTS-4567;bDOTS-14567;bDOTS-24567;bDOTS-124567;bDOTS-34567
287D;BRAILLE PATTERN DOTS-134567;bDOTS-234567;bDOTS-1234567;bDOTS-8;bDOTS-18;bDOTS-28;bDOTS-128
2884;BRAILLE PATTERN DOTS-38;bDOTS-138;bDOTS-238;bDOTS-1238;bDOTS-48;bDOTS-148;bDOTS-248
288B;BRAILLE PATTERN DOTS-1248;bDOTS-348;bDOTS-1348;bDOTS-2348;bDOTS-12348;bDOTS-58;bDOTS-158
2892;BRAILLE PATTERN DOTS-258;bDOTS-1258;bDOTS-358;bDOTS-1358;bDOTS-2358;bDOTS-12358;bDOTS-458
2899;BRAILLE PATTERN DOTS-1458;bDOTS-2458;bDOTS-12458;bDOTS-3458;bDOTS-13458;bDOTS-23458
289F;BRAILLE PATTERN DOTS-123458;bDOTS-68;bDOTS-168;bDOTS-268;bDOTS-1268;bDOTS-368;bDOTS-1368
28A6;BRAILLE PATTERN DOTS-2368;bDOTS-12368;bDOTS-468;bDOTS-1468;bDOTS-2468;bDOTS-12468;bDOTS-3468
28AD;BRAILLE PATTERN DOTS-13468;bDOTS-23468;bDOTS-123468;bDOTS-568;bDOTS-1568;bDOTS-2568
28B3;BRAILLE PATTERN DOTS-12568;bDOTS-3568;bDOTS-13568;bDOTS-23568;bDOTS-123568;bDOTS-4568
28B9;BRAILLE PATTERN DOTS-14568;bDOTS-24568;bDOTS-124568;bDOTS-34568;bDOTS-134568;bDOTS-234568
28BF;BRAILLE PATTERN DOTS-1234568;bDOTS-78;bDOTS-178;bDOTS-278;bDOTS-1278;bDOTS-378;bDOTS-1378
28C6;BRAILLE PATTERN DOTS-2378;bDOTS-12378;bDOTS-478;bDOTS-1478;bDOTS-2478;bDOTS-12478;bDOTS-3478
28CD;BRAILLE PATTERN DOTS-13478;bDOTS-23478;bDOTS-123478;bDOTS-578;bDOTS-1578;bDOTS-2578
28D3;BRAILLE PATTERN DOTS-12578;bDOTS-3578;bDOTS-13578;bDOTS-23578;bDOTS-123578;bDOTS-4578
28D9;BRAILLE PATTERN DOTS-14578;bDOTS-24578;bDOTS-124578;bDOTS-34578;bDOTS-134578;bDOTS-234578
28DF;BRAILLE PATTERN DOTS-1234578;bDOTS-678;bDOTS-1678;bDOTS-2678;bDOTS-12678;bDOTS-3678
28E5;BRAILLE PATTERN DOTS-13678;bDOTS-23678;bDOTS-123678;bDOTS-4678;bDOTS-14678;bDOTS-24678
28EB;BRAILLE PATTERN DOTS-124678;bDOTS-34678;bDOTS-134678;bDOTS-234678;bDOTS-1234678;bDOTS-5678
28F1;BRAILLE PATTERN DOTS-15678;bDOTS-25678;bDOTS-125678;bDOTS-35678;bDOTS-135678;bDOTS-235678
28F7;BRAILLE PATTERN DOTS-1235678;bDOTS-45678;bDOTS-145678;bDOTS-245678;bDOTS-1245678;bDOTS-345678
28FD;BRAILLE PATTERN DOTS-1345678;bDOTS-2345678;bDOTS-12345678
2900;RIGHTWARDS TWO-HEADED ARROW WITH VERTICAL STROKE;dDOUBLE VERTICAL STROKE
2902;LEFTWARDS DOUBLE ARROW WITH VERTICAL STROKE;RIGHTWARDS DOUBLE ARROW WITH VERTICAL STROKE
2904;LEFT RIGHT DOUBLE ARROW WITH VERTICAL STROKE;RIGHTWARDS TWO-HEADED ARROW FROM BAR
2906;LEFTWARDS DOUBLE ARROW FROM BAR;RIGHTWARDS DOUBLE ARROW FROM BAR
2908;DOWNWARDS ARROW WITH HORIZONTAL STROKE;UPWARDS ARROW WITH HORIZONTAL STROKE;aTRIPLE ARROW
290B;DOWNWARDS TRIPLE ARROW;LEFTWARDS DOUBLE DASH ARROW;RIGHTWARDS DOUBLE DASH ARROW
290E;LEFTWARDS TRIPLE DASH ARROW;RIGHTWARDS TRIPLE DASH ARROW;aTWO-HEADED TRIPLE DASH ARROW
2911;RIGHTWARDS ARROW WITH DOTTED STEM;UPWARDS ARROW TO BAR;DOWNWARDS ARROW TO BAR
2914;RIGHTWARDS ARROW WITH TAIL WITH VERTICAL STROKE;eDOUBLE VERTICAL STROKE
2916;RIGHTWARDS TWO-HEADED ARROW WITH TAIL;eWITH VERTICAL STROKE;fDOUBLE VERTICAL STROKE
2919;LEFTWARDS ARROW-TAIL;RIGHTWARDS ARROW-TAIL;LEFTWARDS DOUBLE ARROW-TAIL
291C;RIGHTWARDS DOUBLE ARROW-TAIL;LEFTWARDS ARROW TO BLACK DIAMOND
291E;RIGHTWARDS ARROW TO BLACK DIAMOND;LEFTWARDS ARROW FROM BAR TO BLACK DIAMOND
2920;RIGHTWARDS ARROW FROM BAR TO BLACK DIAMOND;NORTH WEST AND SOUTH EAST ARROW
2922;NORTH EAST AND SOUTH WEST ARROW;aWEST ARROW WITH HOOK;aEAST ARROW WITH HOOK
2925;SOUTH EAST ARROW WITH HOOK;aWEST ARROW WITH HOOK;NORTH WEST ARROW AND NORTH EAST ARROW
2928;NORTH EAST ARROW AND SOUTH EAST ARROW;SOUTH EAST ARROW AND SOUTH WEST ARROW
292A;SOUTH WEST ARROW AND NORTH WEST ARROW;RISING DIAGONAL CROSSING FALLING DIAGONAL
292C;FALLING DIAGONAL CROSSING RISING DIAGONAL;SOUTH EAST ARROW CROSSING NORTH EAST ARROW
292E;NORTH EAST ARROW CROSSING SOUTH EAST ARROW;FALLING DIAGONAL CROSSING NORTH EAST ARROW
2930;RISING DIAGONAL CROSSING SOUTH EAST ARROW;NORTH EAST ARROW CROSSING NORTH WEST ARROW
2932;NORTH WEST ARROW CROSSING NORTH EAST ARROW;WAVE ARROW POINTING DIRECTLY RIGHT
2934;ARROW POINTING RIGHTWARDS THEN CURVING UPWARDS;eDOWNWARDS;bDOWNWARDS THEN CURVING LEFTWARDS
2937;ARROW POINTING DOWNWARDS THEN CURVING RIGHTWARDS;RIGHT-SIDE ARC CLOCKWISE ARROW
2939;LEFT-SIDE ARC ANTICLOCKWISE ARROW;TOP ARC ANTICLOCKWISE ARROW;BOTTOM ARC ANTICLOCKWISE ARROW
293C;TOP ARC CLOCKWISE ARROW WITH MINUS;bANTICLOCKWISE ARROW WITH PLUS
293E;LOWER RIGHT SEMICIRCULAR CLOCKWISE ARROW;aLEFT SEMICIRCULAR ANTICLOCKWISE ARROW
2940;ANTICLOCKWISE CLOSED CIRCLE ARROW;CLOCKWISE CLOSED CIRCLE ARROW
2942;RIGHTWARDS ARROW ABOVE SHORT LEFTWARDS ARROW;LEFTWARDS ARROW ABOVE SHORT RIGHTWARDS ARROW
2944;SHORT RIGHTWARDS ARROW ABOVE LEFTWARDS ARROW;RIGHTWARDS ARROW WITH PLUS BELOW
2946;LEFTWARDS ARROW WITH PLUS BELOW;RIGHTWARDS ARROW THROUGH X
2948;LEFT RIGHT ARROW THROUGH SMALL CIRCLE;UPWARDS TWO-HEADED ARROW FROM SMALL CIRCLE
294A;LEFT BARB UP RIGHT BARB DOWN HARPOON;bDOWN RIGHT BARB UP HARPOON
294C;UP BARB RIGHT DOWN BARB LEFT HARPOON;bLEFT DOWN BARB RIGHT HARPOON
294E;LEFT BARB UP RIGHT BARB UP HARPOON;UP BARB RIGHT DOWN BARB RIGHT HARPOON
2950;LEFT BARB DOWN RIGHT BARB DOWN HARPOON;UP BARB LEFT DOWN BARB LEFT HARPOON
2952;LEFTWARDS HARPOON WITH BARB UP TO BAR;RIGHTWARDS HARPOON WITH BARB UP TO BAR
2954;UPWARDS HARPOON WITH BARB RIGHT TO BAR;DOWNWARDS HARPOON WITH BARB RIGHT TO BAR
2956;LEFTWARDS HARPOON WITH BARB DOWN TO BAR;RIGHTWARDS HARPOON WITH BARB DOWN TO BAR
2958;UPWARDS HARPOON WITH BARB LEFT TO BAR;DOWNWARDS HARPOON WITH BARB LEFT TO BAR
295A;LEFTWARDS HARPOON WITH BARB UP FROM BAR;RIGHTWARDS HARPOON WITH BARB UP FROM BAR
295C;UPWARDS HARPOON WITH BARB RIGHT FROM BAR;DOWNWARDS HARPOON WITH BARB RIGHT FROM BAR
295E;LEFTWARDS HARPOON WITH BARB DOWN FROM BAR;RIGHTWARDS HARPOON WITH BARB DOWN FROM BAR
2960;UPWARDS HARPOON WITH BARB LEFT FROM BAR;DOWNWARDS HARPOON WITH BARB LEFT FROM BAR
2962;LEFTWARDS HARPOON WITH BARB UP ABOVE LEFTWARDS HARPOON WITH BARB DOWN
2963;UPWARDS HARPOON WITH BARB LEFT BESIDE UPWARDS HARPOON WITH BARB RIGHT
2964;RIGHTWARDS HARPOON WITH BARB UP ABOVE RIGHTWARDS HARPOON WITH BARB DOWN
2965;DOWNWARDS HARPOON WITH BARB LEFT BESIDE DOWNWARDS HARPOON WITH BARB RIGHT
2966;LEFTWARDS HARPOON WITH BARB UP ABOVE RIGHTWARDS HARPOON WITH BARB UP
2967;LEFTWARDS HARPOON WITH BARB DOWN ABOVE RIGHTWARDS HARPOON WITH BARB DOWN
2968;RIGHTWARDS HARPOON WITH BARB UP ABOVE LEFTWARDS HARPOON WITH BARB UP
2969;RIGHTWARDS HARPOON WITH BARB DOWN ABOVE LEFTWARDS HARPOON WITH BARB DOWN
296A;LEFTWARDS HARPOON WITH BARB UP ABOVE LONG DASH;dDOWN BELOW LONG DASH
296C;RIGHTWARDS HARPOON WITH BARB UP ABOVE LONG DASH;dDOWN BELOW LONG DASH
296E;UPWARDS HARPOON WITH BARB LEFT BESIDE DOWNWARDS HARPOON WITH BARB RIGHT
296F;DOWNWARDS HARPOON WITH BARB LEFT BESIDE UPWARDS HARPOON WITH BARB RIGHT
2970;RIGHT DOUBLE ARROW WITH ROUNDED HEAD;EQUALS SIGN ABOVE RIGHTWARDS ARROW
2972;TILDE OPERATOR ABOVE RIGHTWARDS ARROW;LEFTWARDS ARROW ABOVE TILDE OPERATOR
2974;RIGHTWARDS ARROW ABOVE TILDE OPERATOR;cALMOST EQUAL TO;LESS-THAN ABOVE LEFTWARDS ARROW
2977;LEFTWARDS ARROW THROUGH LESS-THAN;GREATER-THAN ABOVE RIGHTWARDS ARROW
2979;SUBSET ABOVE RIGHTWARDS ARROW;LEFTWARDS ARROW THROUGH SUBSET;SUPERSET ABOVE LEFTWARDS ARROW
297C;LEFT FISH TAIL;RIGHT FISH TAIL;UP FISH TAIL;DOWN FISH TAIL;TRIPLE VERTICAL BAR DELIMITER
2981;Z NOTATION SPOT;bTYPE COLON;LEFT WHITE CURLY BRACKET;RIGHT WHITE CURLY BRACKET
2985;LEFT WHITE PARENTHESIS;RIGHT WHITE PARENTHESIS;Z NOTATION LEFT IMAGE BRACKET
2988;Z NOTATION RIGHT IMAGE BRACKET;bLEFT BINDING BRACKET;bRIGHT BINDING BRACKET
298B;LEFT SQUARE BRACKET WITH UNDERBAR;RIGHT SQUARE BRACKET WITH UNDERBAR
298D;LEFT SQUARE BRACKET WITH TICK IN TOP CORNER;RIGHT SQUARE BRACKET WITH TICK IN BOTTOM CORNER
298F;LEFT SQUARE BRACKET WITH TICK IN BOTTOM CORNER;RIGHT SQUARE BRACKET WITH TICK IN TOP CORNER
2991;LEFT ANGLE BRACKET WITH DOT;RIGHT ANGLE BRACKET WITH DOT;LEFT ARC LESS-THAN BRACKET
2994;RIGHT ARC GREATER-THAN BRACKET;DOUBLE LEFT ARC GREATER-THAN BRACKET
2996;DOUBLE RIGHT ARC LESS-THAN BRACKET;LEFT BLACK TORTOISE SHELL BRACKET
2998;RIGHT BLACK TORTOISE SHELL BRACKET;DOTTED FENCE;VERTICAL ZIGZAG LINE
299B;MEASURED ANGLE OPENING LEFT;RIGHT ANGLE VARIANT WITH SQUARE;MEASURED RIGHT ANGLE WITH DOT
299E;ANGLE WITH S INSIDE;ACUTE ANGLE;SPHERICAL ANGLE OPENING LEFT;cUP;TURNED ANGLE;REVERSED ANGLE
29A4;ANGLE WITH UNDERBAR;REVERSED ANGLE WITH UNDERBAR;OBLIQUE ANGLE OPENING UP;cDOWN
29A8;MEASURED ANGLE WITH OPEN ARM ENDING IN ARROW POINTING UP AND RIGHT;kLEFT;iDOWN AND RIGHT
29AB;MEASURED ANGLE WITH OPEN ARM ENDING IN ARROW POINTING DOWN AND LEFT;iRIGHT AND UP
29AD;MEASURED ANGLE WITH OPEN ARM ENDING IN ARROW POINTING LEFT AND UP;iRIGHT AND DOWN
29AF;MEASURED ANGLE WITH OPEN ARM ENDING IN ARROW POINTING LEFT AND DOWN;REVERSED EMPTY SET
29B1;EMPTY SET WITH OVERBAR;cSMALL CIRCLE ABOVE;cRIGHT ARROW ABOVE;cLEFT ARROW ABOVE
29B5;CIRCLE WITH HORIZONTAL BAR;CIRCLED VERTICAL BAR;aPARALLEL;aREVERSE SOLIDUS;aPERPENDICULAR
29BA;CIRCLE DIVIDED BY HORIZONTAL BAR AND TOP HALF DIVIDED BY VERTICAL BAR;aWITH SUPERIMPOSED X
29BC;CIRCLED ANTICLOCKWISE-ROTATED DIVISION SIGN;UP ARROW THROUGH CIRCLE;CIRCLED WHITE BULLET
29BF;CIRCLED BULLET;aLESS-THAN;aGREATER-THAN;CIRCLE WITH SMALL CIRCLE TO THE RIGHT
29C3;CIRCLE WITH TWO HORIZONTAL STROKES TO THE RIGHT;SQUARED RISING DIAGONAL SLASH
29C5;SQUARED FALLING DIAGONAL SLASH;aASTERISK;aSMALL CIRCLE;aSQUARE;TWO JOINED SQUARES
29CA;TRIANGLE WITH DOT ABOVE;bUNDERBAR;S IN TRIANGLE;TRIANGLE WITH SERIFS AT BOTTOM
29CE;RIGHT TRIANGLE ABOVE LEFT TRIANGLE;LEFT TRIANGLE BESIDE VERTICAL BAR
29D0;VERTICAL BAR BESIDE RIGHT TRIANGLE;BOWTIE WITH LEFT HALF BLACK;bRIGHT HALF BLACK;BLACK BOWTIE
29D4;TIMES WITH LEFT HALF BLACK;bRIGHT HALF BLACK;WHITE HOURGLASS;BLACK HOURGLASS
29D8;LEFT WIGGLY FENCE;RIGHT WIGGLY FENCE;LEFT DOUBLE WIGGLY FENCE;RIGHT DOUBLE WIGGLY FENCE
29DC;INCOMPLETE INFINITY;TIE OVER INFINITY;INFINITY NEGATED WITH VERTICAL BAR
29DF;DOUBLE-ENDED MULTIMAP;SQUARE WITH CONTOURED OUTLINE;INCREASES AS;SHUFFLE PRODUCT
29E3;EQUALS SIGN AND SLANTED PARALLEL;eWITH TILDE ABOVE;IDENTICAL TO AND SLANTED PARALLEL
29E6;GLEICH STARK;THERMODYNAMIC;DOWN-POINTING TRIANGLE WITH LEFT HALF BLACK;cRIGHT HALF BLACK
29EA;BLACK DIAMOND WITH DOWN ARROW;aLOZENGE;WHITE CIRCLE WITH DOWN ARROW
29ED;BLACK CIRCLE WITH DOWN ARROW;ERROR-BARRED WHITE SQUARE;aBLACK SQUARE;aWHITE DIAMOND
29F1;ERROR-BARRED BLACK DIAMOND;aWHITE CIRCLE;aBLACK CIRCLE;RULE-DELAYED;REVERSE SOLIDUS OPERATOR
29F6;SOLIDUS WITH OVERBAR;REVERSE SOLIDUS WITH HORIZONTAL STROKE;BIG SOLIDUS;aREVERSE SOLIDUS
29FA;DOUBLE PLUS;TRIPLE PLUS;LEFT-POINTING CURVED ANGLE BRACKET
29FD;RIGHT-POINTING CURVED ANGLE BRACKET;TINY;MINY;N-ARY CIRCLED DOT OPERATOR;bPLUS OPERATOR
2A02;N-ARY CIRCLED TIMES OPERATOR;aUNION OPERATOR WITH DOT;dPLUS;aSQUARE INTERSECTION OPERATOR
2A06;N-ARY SQUARE UNION OPERATOR;TWO LOGICAL AND OPERATOR;bOR OPERATOR;N-ARY TIMES OPERATOR
2A0A;MODULO TWO SUM;SUMMATION WITH INTEGRAL;QUADRUPLE INTEGRAL OPERATOR;FINITE PART INTEGRAL
2A0E;INTEGRAL WITH DOUBLE STROKE;aAVERAGE WITH SLASH;CIRCULATION FUNCTION
2A11;ANTICLOCKWISE INTEGRATION;LINE INTEGRATION WITH RECTANGULAR PATH AROUND POLE
2A13;LINE INTEGRATION WITH SEMICIRCULAR PATH AROUND POLE;bNOT INCLUDING THE POLE
2A15;INTEGRAL AROUND A POINT OPERATOR;QUATERNION INTEGRAL OPERATOR
2A17;INTEGRAL WITH LEFTWARDS ARROW WITH HOOK;bTIMES SIGN;bINTERSECTION;bUNION;bOVERBAR;bUNDERBAR
2A1D;JOIN;LARGE LEFT TRIANGLE OPERATOR;Z NOTATION SCHEMA COMPOSITION;cPIPING;cPROJECTION
2A22;PLUS SIGN WITH SMALL CIRCLE ABOVE;cCIRCUMFLEX ACCENT ABOVE;cTILDE ABOVE;cDOT BELOW
2A26;PLUS SIGN WITH TILDE BELOW;cSUBSCRIPT TWO;cBLACK TRIANGLE;MINUS SIGN WITH COMMA ABOVE
2A2A;MINUS SIGN WITH DOT BELOW;cFALLING DOTS;cRISING DOTS;PLUS SIGN IN LEFT HALF CIRCLE
2A2E;PLUS SIGN IN RIGHT HALF CIRCLE;VECTOR OR CROSS PRODUCT;MULTIPLICATION SIGN WITH DOT ABOVE
2A31;MULTIPLICATION SIGN WITH UNDERBAR;SEMIDIRECT PRODUCT WITH BOTTOM CLOSED;SMASH PRODUCT
2A34;MULTIPLICATION SIGN IN LEFT HALF CIRCLE;cRIGHT HALF CIRCLE
2A36;CIRCLED MULTIPLICATION SIGN WITH CIRCUMFLEX ACCENT;MULTIPLICATION SIGN IN DOUBLE CIRCLE
2A38;CIRCLED DIVISION SIGN;PLUS SIGN IN TRIANGLE;MINUS SIGN IN TRIANGLE
2A3B;MULTIPLICATION SIGN IN TRIANGLE;INTERIOR PRODUCT;RIGHTHAND INTERIOR PRODUCT
2A3E;Z NOTATION RELATIONAL COMPOSITION;AMALGAMATION OR COPRODUCT;INTERSECTION WITH DOT
2A41;UNION WITH MINUS SIGN;bOVERBAR;INTERSECTION WITH OVERBAR;bLOGICAL AND;UNION WITH LOGICAL OR
2A46;UNION ABOVE INTERSECTION;INTERSECTION ABOVE UNION;UNION ABOVE BAR ABOVE INTERSECTION
2A49;INTERSECTION ABOVE BAR ABOVE UNION;UNION BESIDE AND JOINED WITH UNION
2A4B;INTERSECTION BESIDE AND JOINED WITH INTERSECTION;CLOSED UNION WITH SERIFS
2A4D;CLOSED INTERSECTION WITH SERIFS;DOUBLE SQUARE INTERSECTION;bUNION
2A50;CLOSED UNION WITH SERIFS AND SMASH PRODUCT;LOGICAL AND WITH DOT ABOVE;aOR WITH DOT ABOVE
2A53;DOUBLE LOGICAL AND;bOR;TWO INTERSECTING LOGICAL AND;cOR;SLOPING LARGE OR;bAND
2A59;LOGICAL OR OVERLAPPING LOGICAL AND;aAND WITH MIDDLE STEM;aOR WITH MIDDLE STEM
2A5C;LOGICAL AND WITH HORIZONTAL DASH;aOR WITH HORIZONTAL DASH;aAND WITH DOUBLE OVERBAR;cUNDERBAR
2A60;LOGICAL AND WITH DOUBLE UNDERBAR;SMALL VEE WITH UNDERBAR;LOGICAL OR WITH DOUBLE OVERBAR
2A63;LOGICAL OR WITH DOUBLE UNDERBAR;Z NOTATION DOMAIN ANTIRESTRICTION;bRANGE ANTIRESTRICTION
2A66;EQUALS SIGN WITH DOT BELOW;IDENTICAL WITH DOT ABOVE
2A68;TRIPLE HORIZONTAL BAR WITH DOUBLE VERTICAL STROKE;dTRIPLE VERTICAL STROKE
2A6A;TILDE OPERATOR WITH DOT ABOVE;cRISING DOTS;SIMILAR MINUS SIMILAR;CONGRUENT WITH DOT ABOVE
2A6E;EQUALS WITH ASTERISK;ALMOST EQUAL TO WITH CIRCUMFLEX ACCENT;APPROXIMATELY EQUAL OR EQUAL TO
2A71;EQUALS SIGN ABOVE PLUS SIGN;PLUS SIGN ABOVE EQUALS SIGN;EQUALS SIGN ABOVE TILDE OPERATOR
2A74;DOUBLE COLON EQUAL;TWO CONSECUTIVE EQUALS SIGNS;THREE CONSECUTIVE EQUALS SIGNS
2A77;EQUALS SIGN WITH TWO DOTS ABOVE AND TWO DOTS BELOW;EQUIVALENT WITH FOUR DOTS ABOVE
2A79;LESS-THAN WITH CIRCLE INSIDE;GREATER-THAN WITH CIRCLE INSIDE
2A7B;LESS-THAN WITH QUESTION MARK ABOVE;GREATER-THAN WITH QUESTION MARK ABOVE
2A7D;LESS-THAN OR SLANTED EQUAL TO;GREATER-THAN OR SLANTED EQUAL TO
2A7F;LESS-THAN OR SLANTED EQUAL TO WITH DOT INSIDE
2A80;GREATER-THAN OR SLANTED EQUAL TO WITH DOT INSIDE;LESS-THAN OR SLANTED EQUAL TO WITH DOT ABOVE
2A82;GREATER-THAN OR SLANTED EQUAL TO WITH DOT ABOVE
2A83;LESS-THAN OR SLANTED EQUAL TO WITH DOT ABOVE RIGHT
2A84;GREATER-THAN OR SLANTED EQUAL TO WITH DOT ABOVE LEFT;LESS-THAN OR APPROXIMATE
2A86;GREATER-THAN OR APPROXIMATE;LESS-THAN AND SINGLE-LINE NOT EQUAL TO
2A88;GREATER-THAN AND SINGLE-LINE NOT EQUAL TO;LESS-THAN AND NOT APPROXIMATE
2A8A;GREATER-THAN AND NOT APPROXIMATE;LESS-THAN ABOVE DOUBLE-LINE EQUAL ABOVE GREATER-THAN
2A8C;GREATER-THAN ABOVE DOUBLE-LINE EQUAL ABOVE LESS-THAN;LESS-THAN ABOVE SIMILAR OR EQUAL
2A8E;GREATER-THAN ABOVE SIMILAR OR EQUAL;LESS-THAN ABOVE SIMILAR ABOVE GREATER-THAN
2A90;GREATER-THAN ABOVE SIMILAR ABOVE LESS-THAN
2A91;LESS-THAN ABOVE GREATER-THAN ABOVE DOUBLE-LINE EQUAL
2A92;GREATER-THAN ABOVE LESS-THAN ABOVE DOUBLE-LINE EQUAL
2A93;LESS-THAN ABOVE SLANTED EQUAL ABOVE GREATER-THAN ABOVE SLANTED EQUAL
2A94;GREATER-THAN ABOVE SLANTED EQUAL ABOVE LESS-THAN ABOVE SLANTED EQUAL
2A95;SLANTED EQUAL TO OR LESS-THAN;dGREATER-THAN;dLESS-THAN WITH DOT INSIDE
2A98;SLANTED EQUAL TO OR GREATER-THAN WITH DOT INSIDE;DOUBLE-LINE EQUAL TO OR LESS-THAN
2A9A;DOUBLE-LINE EQUAL TO OR GREATER-THAN;aSLANTED EQUAL TO OR LESS-THAN;eGREATER-THAN
2A9D;SIMILAR OR LESS-THAN;bGREATER-THAN;aABOVE LESS-THAN ABOVE EQUALS SIGN
2AA0;SIMILAR ABOVE GREATER-THAN ABOVE EQUALS SIGN;DOUBLE NESTED LESS-THAN;bGREATER-THAN
2AA3;DOUBLE NESTED LESS-THAN WITH UNDERBAR;GREATER-THAN OVERLAPPING LESS-THAN;aBESIDE LESS-THAN
2AA6;LESS-THAN CLOSED BY CURVE;GREATER-THAN CLOSED BY CURVE
2AA8;LESS-THAN CLOSED BY CURVE ABOVE SLANTED EQUAL
2AA9;GREATER-THAN CLOSED BY CURVE ABOVE SLANTED EQUAL;SMALLER THAN;LARGER THAN
2AAC;SMALLER THAN OR EQUAL TO;LARGER THAN OR EQUAL TO;EQUALS SIGN WITH BUMPY ABOVE
2AAF;PRECEDES ABOVE SINGLE-LINE EQUALS SIGN;SUCCEEDS ABOVE SINGLE-LINE EQUALS SIGN
2AB1;PRECEDES ABOVE SINGLE-LINE NOT EQUAL TO;SUCCEEDS ABOVE SINGLE-LINE NOT EQUAL TO
2AB3;PRECEDES ABOVE EQUALS SIGN;SUCCEEDS ABOVE EQUALS SIGN;PRECEDES ABOVE NOT EQUAL TO
2AB6;SUCCEEDS ABOVE NOT EQUAL TO;PRECEDES ABOVE ALMOST EQUAL TO;SUCCEEDS ABOVE ALMOST EQUAL TO
2AB9;PRECEDES ABOVE NOT ALMOST EQUAL TO;SUCCEEDS ABOVE NOT ALMOST EQUAL TO;DOUBLE PRECEDES
2ABC;DOUBLE SUCCEEDS;SUBSET WITH DOT;SUPERSET WITH DOT;SUBSET WITH PLUS SIGN BELOW
2AC0;SUPERSET WITH PLUS SIGN BELOW;SUBSET WITH MULTIPLICATION SIGN BELOW
2AC2;SUPERSET WITH MULTIPLICATION SIGN BELOW;SUBSET OF OR EQUAL TO WITH DOT ABOVE
2AC4;SUPERSET OF OR EQUAL TO WITH DOT ABOVE;SUBSET OF ABOVE EQUALS SIGN
2AC6;SUPERSET OF ABOVE EQUALS SIGN;SUBSET OF ABOVE TILDE OPERATOR;SUPERSET OF ABOVE TILDE OPERATOR
2AC9;SUBSET OF ABOVE ALMOST EQUAL TO;SUPERSET OF ABOVE ALMOST EQUAL TO
2ACB;SUBSET OF ABOVE NOT EQUAL TO;SUPERSET OF ABOVE NOT EQUAL TO;SQUARE LEFT OPEN BOX OPERATOR
2ACE;SQUARE RIGHT OPEN BOX OPERATOR;CLOSED SUBSET;aSUPERSET;aSUBSET OR EQUAL TO
2AD2;CLOSED SUPERSET OR EQUAL TO;SUBSET ABOVE SUPERSET;SUPERSET ABOVE SUBSET;SUBSET ABOVE SUBSET
2AD6;SUPERSET ABOVE SUPERSET;aBESIDE SUBSET;bAND JOINED BY DASH WITH SUBSET
2AD9;ELEMENT OF OPENING DOWNWARDS;PITCHFORK WITH TEE TOP;TRANSVERSAL INTERSECTION;FORKING
2ADD;NONFORKING;SHORT LEFT TACK;aDOWN TACK;aUP TACK;PERPENDICULAR WITH S
2AE2;VERTICAL BAR TRIPLE RIGHT TURNSTILE;DOUBLE VERTICAL BAR LEFT TURNSTILE
2AE4;VERTICAL BAR DOUBLE LEFT TURNSTILE;DOUBLE VERTICAL BAR DOUBLE LEFT TURNSTILE
2AE6;LONG DASH FROM LEFT MEMBER OF DOUBLE VERTICAL;SHORT DOWN TACK WITH OVERBAR
2AE8;SHORT UP TACK WITH UNDERBAR;cABOVE SHORT DOWN TACK;DOUBLE DOWN TACK;aUP TACK;aSTROKE NOT SIGN
2AED;REVERSED DOUBLE STROKE NOT SIGN;DOES NOT DIVIDE WITH REVERSED NEGATION SLASH
2AEF;VERTICAL LINE WITH CIRCLE ABOVE;dBELOW;DOWN TACK WITH CIRCLE BELOW
2AF2;PARALLEL WITH HORIZONTAL STROKE;bTILDE OPERATOR;TRIPLE VERTICAL BAR BINARY RELATION
2AF5;TRIPLE VERTICAL BAR WITH HORIZONTAL STROKE;aCOLON OPERATOR;aNESTED LESS-THAN;bGREATER-THAN
2AF9;DOUBLE-LINE SLANTED LESS-THAN OR EQUAL TO;bGREATER-THAN OR EQUAL TO
2AFB;TRIPLE SOLIDUS BINARY RELATION;LARGE TRIPLE VERTICAL BAR OPERATOR;DOUBLE SOLIDUS OPERATOR
2AFE;WHITE VERTICAL BAR;N-ARY WHITE VERTICAL BAR;NORTH EAST WHITE ARROW;aWEST WHITE ARROW
2B02;SOUTH EAST WHITE ARROW;aWEST WHITE ARROW;LEFT RIGHT WHITE ARROW;LEFTWARDS BLACK ARROW
2B06;UPWARDS BLACK ARROW;DOWNWARDS BLACK ARROW;NORTH EAST BLACK ARROW;aWEST BLACK ARROW
2B0A;SOUTH EAST BLACK ARROW;aWEST BLACK ARROW;LEFT RIGHT BLACK ARROW;UP DOWN BLACK ARROW
2B0E;RIGHTWARDS ARROW WITH TIP DOWNWARDS;dUPWARDS;LEFTWARDS ARROW WITH TIP DOWNWARDS;dUPWARDS
2B12;SQUARE WITH TOP HALF BLACK;bBOTTOM HALF BLACK;bUPPER RIGHT DIAGONAL HALF BLACK
2B15;SQUARE WITH LOWER LEFT DIAGONAL HALF BLACK;DIAMOND WITH LEFT HALF BLACK;bRIGHT HALF BLACK
2B18;DIAMOND WITH TOP HALF BLACK;bBOTTOM HALF BLACK;DOTTED SQUARE;BLACK LARGE SQUARE
2B1C;WHITE LARGE SQUARE;BLACK VERY SMALL SQUARE;WHITE VERY SMALL SQUARE;BLACK PENTAGON
2B20;WHITE PENTAGON;aHEXAGON;BLACK HEXAGON;HORIZONTAL BLACK HEXAGON;BLACK LARGE CIRCLE
2B25;BLACK MEDIUM DIAMOND;WHITE MEDIUM DIAMOND;BLACK MEDIUM LOZENGE;WHITE MEDIUM LOZENGE
2B29;BLACK SMALL DIAMOND;bLOZENGE;WHITE SMALL LOZENGE;BLACK HORIZONTAL ELLIPSE
2B2D;WHITE HORIZONTAL ELLIPSE;BLACK VERTICAL ELLIPSE;WHITE VERTICAL ELLIPSE
2B30;LEFT ARROW WITH SMALL CIRCLE;THREE LEFTWARDS ARROWS;LEFT ARROW WITH CIRCLED PLUS
2B33;LONG LEFTWARDS SQUIGGLE ARROW;LEFTWARDS TWO-HEADED ARROW WITH VERTICAL STROKE
2B35;LEFTWARDS TWO-HEADED ARROW WITH DOUBLE VERTICAL STROKE;cFROM BAR;bTRIPLE DASH ARROW
2B38;LEFTWARDS ARROW WITH DOTTED STEM;cTAIL WITH VERTICAL STROKE;eDOUBLE VERTICAL STROKE
2B3B;LEFTWARDS TWO-HEADED ARROW WITH TAIL;eWITH VERTICAL STROKE;fDOUBLE VERTICAL STROKE
2B3E;LEFTWARDS ARROW THROUGH X;WAVE ARROW POINTING DIRECTLY LEFT;EQUALS SIGN ABOVE LEFTWARDS ARROW
2B41;REVERSE TILDE OPERATOR ABOVE LEFTWARDS ARROW;LEFTWARDS ARROW ABOVE REVERSE ALMOST EQUAL TO
2B43;RIGHTWARDS ARROW THROUGH GREATER-THAN;cSUPERSET;LEFTWARDS QUADRUPLE ARROW
2B46;RIGHTWARDS QUADRUPLE ARROW;REVERSE TILDE OPERATOR ABOVE RIGHTWARDS ARROW
2B48;RIGHTWARDS ARROW ABOVE REVERSE ALMOST EQUAL TO;TILDE OPERATOR ABOVE LEFTWARDS ARROW
2B4A;LEFTWARDS ARROW ABOVE ALMOST EQUAL TO;cREVERSE TILDE OPERATOR
2B4C;RIGHTWARDS ARROW ABOVE REVERSE TILDE OPERATOR;DOWNWARDS TRIANGLE-HEADED ZIGZAG ARROW
2B4E;SHORT SLANTED NORTH ARROW;aBACKSLANTED SOUTH ARROW;WHITE MEDIUM STAR;BLACK SMALL STAR
2B52;WHITE SMALL STAR;BLACK RIGHT-POINTING PENTAGON;WHITE RIGHT-POINTING PENTAGON
2B55;HEAVY LARGE CIRCLE;aOVAL WITH OVAL INSIDE;aCIRCLE WITH CIRCLE INSIDE;aCIRCLE;aCIRCLED SALTIRE
2B5A;SLANTED NORTH ARROW WITH HOOKED HEAD;BACKSLANTED SOUTH ARROW WITH HOOKED TAIL
2B5C;SLANTED NORTH ARROW WITH HORIZONTAL TAIL;BACKSLANTED SOUTH ARROW WITH HORIZONTAL TAIL
2B5E;BENT ARROW POINTING DOWNWARDS THEN NORTH EAST
2B5F;SHORT BENT ARROW POINTING DOWNWARDS THEN NORTH EAST;LEFTWARDS TRIANGLE-HEADED ARROW
2B61;UPWARDS TRIANGLE-HEADED ARROW;RIGHTWARDS TRIANGLE-HEADED ARROW
2B63;DOWNWARDS TRIANGLE-HEADED ARROW;LEFT RIGHT TRIANGLE-HEADED ARROW
2B65;UP DOWN TRIANGLE-HEADED ARROW;NORTH WEST TRIANGLE-HEADED ARROW;aEAST TRIANGLE-HEADED ARROW
2B68;SOUTH EAST TRIANGLE-HEADED ARROW;aWEST TRIANGLE-HEADED ARROW
2B6A;LEFTWARDS TRIANGLE-HEADED DASHED ARROW;UPWARDS TRIANGLE-HEADED DASHED ARROW
2B6C;RIGHTWARDS TRIANGLE-HEADED DASHED ARROW;DOWNWARDS TRIANGLE-HEADED DASHED ARROW
2B6E;CLOCKWISE TRIANGLE-HEADED OPEN CIRCLE ARROW;ANTICLOCKWISE TRIANGLE-HEADED OPEN CIRCLE ARROW
2B70;LEFTWARDS TRIANGLE-HEADED ARROW TO BAR;UPWARDS TRIANGLE-HEADED ARROW TO BAR
2B72;RIGHTWARDS TRIANGLE-HEADED ARROW TO BAR;DOWNWARDS TRIANGLE-HEADED ARROW TO BAR
2B76;NORTH WEST TRIANGLE-HEADED ARROW TO BAR;aEAST TRIANGLE-HEADED ARROW TO BAR
2B78;SOUTH EAST TRIANGLE-HEADED ARROW TO BAR;aWEST TRIANGLE-HEADED ARROW TO BAR
2B7A;LEFTWARDS TRIANGLE-HEADED ARROW WITH DOUBLE HORIZONTAL STROKE
2B7B;UPWARDS TRIANGLE-HEADED ARROW WITH DOUBLE HORIZONTAL STROKE
2B7C;RIGHTWARDS TRIANGLE-HEADED ARROW WITH DOUBLE HORIZONTAL STROKE
2B7D;DOWNWARDS TRIANGLE-HEADED ARROW WITH DOUBLE HORIZONTAL STROKE;HORIZONTAL TAB KEY
2B7F;VERTICAL TAB KEY;LEFTWARDS TRIANGLE-HEADED ARROW OVER RIGHTWARDS TRIANGLE-HEADED ARROW
2B81;UPWARDS TRIANGLE-HEADED ARROW LEFTWARDS OF DOWNWARDS TRIANGLE-HEADED ARROW
2B82;RIGHTWARDS TRIANGLE-HEADED ARROW OVER LEFTWARDS TRIANGLE-HEADED ARROW
2B83;DOWNWARDS TRIANGLE-HEADED ARROW LEFTWARDS OF UPWARDS TRIANGLE-HEADED ARROW
2B84;LEFTWARDS TRIANGLE-HEADED PAIRED ARROWS;UPWARDS TRIANGLE-HEADED PAIRED ARROWS
2B86;RIGHTWARDS TRIANGLE-HEADED PAIRED ARROWS;DOWNWARDS TRIANGLE-HEADED PAIRED ARROWS
2B88;LEFTWARDS BLACK CIRCLED WHITE ARROW;UPWARDS BLACK CIRCLED WHITE ARROW
2B8A;RIGHTWARDS BLACK CIRCLED WHITE ARROW;DOWNWARDS BLACK CIRCLED WHITE ARROW
2B8C;ANTICLOCKWISE TRIANGLE-HEADED RIGHT U-SHAPED ARROW;bBOTTOM U-SHAPED ARROW
2B8E;ANTICLOCKWISE TRIANGLE-HEADED LEFT U-SHAPED ARROW;bTOP U-SHAPED ARROW;RETURN LEFT;aRIGHT
2B92;NEWLINE LEFT;aRIGHT;FOUR CORNER ARROWS CIRCLING ANTICLOCKWISE;RIGHTWARDS BLACK ARROW
2B97;SYMBOL FOR TYPE A ELECTRONICS;THREE-D TOP-LIGHTED LEFTWARDS EQUILATERAL ARROWHEAD
2B99;THREE-D RIGHT-LIGHTED UPWARDS EQUILATERAL ARROWHEAD
2B9A;THREE-D TOP-LIGHTED RIGHTWARDS EQUILATERAL ARROWHEAD
2B9B;THREE-D LEFT-LIGHTED DOWNWARDS EQUILATERAL ARROWHEAD;BLACK LEFTWARDS EQUILATERAL ARROWHEAD
2B9D;BLACK UPWARDS EQUILATERAL ARROWHEAD;aRIGHTWARDS EQUILATERAL ARROWHEAD
2B9F;BLACK DOWNWARDS EQUILATERAL ARROWHEAD;DOWNWARDS TRIANGLE-HEADED ARROW WITH LONG TIP LEFTWARDS
2BA1;DOWNWARDS TRIANGLE-HEADED ARROW WITH LONG TIP RIGHTWARDS
2BA2;UPWARDS TRIANGLE-HEADED ARROW WITH LONG TIP LEFTWARDS;fRIGHTWARDS
2BA4;LEFTWARDS TRIANGLE-HEADED ARROW WITH LONG TIP UPWARDS
2BA5;RIGHTWARDS TRIANGLE-HEADED ARROW WITH LONG TIP UPWARDS
2BA6;LEFTWARDS TRIANGLE-HEADED ARROW WITH LONG TIP DOWNWARDS
2BA7;RIGHTWARDS TRIANGLE-HEADED ARROW WITH LONG TIP DOWNWARDS
2BA8;BLACK CURVED DOWNWARDS AND LEFTWARDS ARROW;dRIGHTWARDS ARROW;bUPWARDS AND LEFTWARDS ARROW
2BAB;BLACK CURVED UPWARDS AND RIGHTWARDS ARROW;bLEFTWARDS AND UPWARDS ARROW
2BAD;BLACK CURVED RIGHTWARDS AND UPWARDS ARROW;bLEFTWARDS AND DOWNWARDS ARROW
2BAF;BLACK CURVED RIGHTWARDS AND DOWNWARDS ARROW;RIBBON ARROW DOWN LEFT;cRIGHT;bUP LEFT;cRIGHT
2BB4;RIBBON ARROW LEFT UP;bRIGHT UP;bLEFT DOWN;bRIGHT DOWN
2BB8;UPWARDS WHITE ARROW FROM BAR WITH HORIZONTAL BAR;UP ARROWHEAD IN A RECTANGLE BOX
2BBA;OVERLAPPING WHITE SQUARES;bAND BLACK SQUARES;aBLACK SQUARES;BALLOT BOX WITH LIGHT X;CIRCLED X
2BBF;CIRCLED BOLD X;BLACK SQUARE CENTRED;aDIAMOND CENTRED;TURNED BLACK PENTAGON
2BC3;HORIZONTAL BLACK OCTAGON;BLACK OCTAGON;aMEDIUM UP-POINTING TRIANGLE CENTRED
2BC6;BLACK MEDIUM DOWN-POINTING TRIANGLE CENTRED;bLEFT-POINTING TRIANGLE CENTRED
2BC8;BLACK MEDIUM RIGHT-POINTING TRIANGLE CENTRED;NEPTUNE FORM TWO;TOP HALF BLACK CIRCLE
2BCB;BOTTOM HALF BLACK CIRCLE;LIGHT FOUR POINTED BLACK CUSP;ROTATED LIGHT FOUR POINTED BLACK CUSP
2BCE;WHITE FOUR POINTED CUSP;ROTATED WHITE FOUR POINTED CUSP;SQUARE POSITION INDICATOR
2BD1;UNCERTAINTY SIGN;GROUP MARK;PLUTO FORM TWO;bTHREE;bFOUR;bFIVE;TRANSPLUTO;PROSERPINA;ASTRAEA
2BDA;HYGIEA;PHOLUS;NESSUS;WHITE MOON SELENA;BLACK DIAMOND ON CROSS;TRUE LIGHT MOON ARTA;CUPIDO
2BE1;HADES;ZEUS;KRONOS;APOLLON;ADMETOS;VULCANUS;POSEIDON;LEFT HALF BLACK STAR
2BE9;RIGHT HALF BLACK STAR;STAR WITH LEFT HALF BLACK;bRIGHT HALF BLACK
2BEC;LEFTWARDS TWO-HEADED ARROW WITH TRIANGLE ARROWHEADS
2BED;UPWARDS TWO-HEADED ARROW WITH TRIANGLE ARROWHEADS
2BEE;RIGHTWARDS TWO-HEADED ARROW WITH TRIANGLE ARROWHEADS
2BEF;DOWNWARDS TWO-HEADED ARROW WITH TRIANGLE ARROWHEADS;ERIS FORM ONE;bTWO;SEDNA
2BF3;RUSSIAN ASTROLOGICAL SYMBOL VIGINTILE;cNOVILE;cQUINTILE;cBINOVILE;cSENTAGON;cTREDECILE
2BF9;EQUALS SIGN WITH INFINITY BELOW;UNITED SYMBOL;SEPARATED SYMBOL;DOUBLED SYMBOL;PASSED SYMBOL
2BFE;REVERSED RIGHT ANGLE;HELLSCHREIBER PAUSE SYMBOL;GLAGOLITIC CAPITAL LETTER AZU;cBUKY;cVEDE
2C03;GLAGOLITIC CAPITAL LETTER GLAGOLI;cDOBRO;cYESTU;cZHIVETE;cDZELO;cZEMLJA;cIZHE;cINITIAL IZHE
2C0B;GLAGOLITIC CAPITAL LETTER I;cDJERVI;cKAKO;cLJUDIJE;cMYSLITE;cNASHI;cONU;cPOKOJI;cRITSI;cSLOVO
2C15;GLAGOLITIC CAPITAL LETTER TVRIDO;cUKU;cFRITU;cHERU;cOTU;cPE;cSHTA;cTSI;cCHRIVI;cSHA;cYERU
2C20;GLAGOLITIC CAPITAL LETTER YERI;cYATI;cSPIDERY HA;cYU;cSMALL YUS;eWITH TAIL;cYO
2C27;GLAGOLITIC CAPITAL LETTER IOTATED SMALL YUS;cBIG YUS;cIOTATED BIG YUS;cFITA;cIZHITSA;cSHTAPIC
2C2D;GLAGOLITIC CAPITAL LETTER TROKUTASTI A;cLATINATE MYSLITE;cCAUDATE CHRIVI;aSMALL LETTER AZU
2C31;GLAGOLITIC SMALL LETTER BUKY;cVEDE;cGLAGOLI;cDOBRO;cYESTU;cZHIVETE;cDZELO;cZEMLJA;cIZHE
2C3A;GLAGOLITIC SMALL LETTER INITIAL IZHE;cI;cDJERVI;cKAKO;cLJUDIJE;cMYSLITE;cNASHI;cONU;cPOKOJI
2C43;GLAGOLITIC SMALL LETTER RITSI;cSLOVO;cTVRIDO;cUKU;cFRITU;cHERU;cOTU;cPE;cSHTA;cTSI;cCHRIVI
2C4E;GLAGOLITIC SMALL LETTER SHA;cYERU;cYERI;cYATI;cSPIDERY HA;cYU;cSMALL YUS;eWITH TAIL;cYO
2C57;GLAGOLITIC SMALL LETTER IOTATED SMALL YUS;cBIG YUS;cIOTATED BIG YUS;cFITA;cIZHITSA;cSHTAPIC
2C5D;GLAGOLITIC SMALL LETTER TROKUTASTI A;cLATINATE MYSLITE;cCAUDATE CHRIVI
2C60;LATIN CAPITAL LETTER L WITH DOUBLE BAR;aSMALL LETTER L WITH DOUBLE BAR
2C62;LATIN CAPITAL LETTER L WITH MIDDLE TILDE;cP WITH STROKE;cR WITH TAIL
2C65;LATIN SMALL LETTER A WITH STROKE;cT WITH DIAGONAL STROKE;aCAPITAL LETTER H WITH DESCENDER
2C68;LATIN SMALL LETTER H WITH DESCENDER;aCAPITAL LETTER K WITH DESCENDER
2C6A;LATIN SMALL LETTER K WITH DESCENDER;aCAPITAL LETTER Z WITH DESCENDER
2C6C;LATIN SMALL LETTER Z WITH DESCENDER;aCAPITAL LETTER ALPHA;cM WITH HOOK;cTURNED A;dALPHA
2C71;LATIN SMALL LETTER V WITH RIGHT HOOK;aCAPITAL LETTER W WITH HOOK;aSMALL LETTER W WITH HOOK
2C74;LATIN SMALL LETTER V WITH CURL;aCAPITAL LETTER HALF H;aSMALL LETTER HALF H;cTAILLESS PHI
2C78;LATIN SMALL LETTER E WITH NOTCH;cTURNED R WITH TAIL;cO WITH LOW RING INSIDE
2C7B;LATIN LETTER SMALL CAPITAL TURNED E;aSUBSCRIPT SMALL LETTER J;MODIFIER LETTER CAPITAL V
2C7E;LATIN CAPITAL LETTER S WITH SWASH TAIL;cZ WITH SWASH TAIL;COPTIC CAPITAL LETTER ALFA
2C81;COPTIC SMALL LETTER ALFA;aCAPITAL LETTER VIDA;aSMALL LETTER VIDA;aCAPITAL LETTER GAMMA
2C85;COPTIC SMALL LETTER GAMMA;aCAPITAL LETTER DALDA;aSMALL LETTER DALDA;aCAPITAL LETTER EIE
2C89;COPTIC SMALL LETTER EIE;aCAPITAL LETTER SOU;aSMALL LETTER SOU;aCAPITAL LETTER ZATA
2C8D;COPTIC SMALL LETTER ZATA;aCAPITAL LETTER HATE;aSMALL LETTER HATE;aCAPITAL LETTER THETHE
2C91;COPTIC SMALL LETTER THETHE;aCAPITAL LETTER IAUDA;aSMALL LETTER IAUDA;aCAPITAL LETTER KAPA
2C95;COPTIC SMALL LETTER KAPA;aCAPITAL LETTER LAULA;aSMALL LETTER LAULA;aCAPITAL LETTER MI
2C99;COPTIC SMALL LETTER MI;aCAPITAL LETTER NI;aSMALL LETTER NI;aCAPITAL LETTER KSI
2C9D;COPTIC SMALL LETTER KSI;aCAPITAL LETTER O;aSMALL LETTER O;aCAPITAL LETTER PI;aSMALL LETTER PI
2CA2;COPTIC CAPITAL LETTER RO;aSMALL LETTER RO;aCAPITAL LETTER SIMA;aSMALL LETTER SIMA
2CA6;COPTIC CAPITAL LETTER TAU;aSMALL LETTER TAU;aCAPITAL LETTER UA;aSMALL LETTER UA
2CAA;COPTIC CAPITAL LETTER FI;aSMALL LETTER FI;aCAPITAL LETTER KHI;aSMALL LETTER KHI
2CAE;COPTIC CAPITAL LETTER PSI;aSMALL LETTER PSI;aCAPITAL LETTER OOU;aSMALL LETTER OOU
2CB2;COPTIC CAPITAL LETTER DIALECT-P ALEF;aSMALL LETTER DIALECT-P ALEF
2CB4;COPTIC CAPITAL LETTER OLD COPTIC AIN;aSMALL LETTER OLD COPTIC AIN
2CB6;COPTIC CAPITAL LETTER CRYPTOGRAMMIC EIE;aSMALL LETTER CRYPTOGRAMMIC EIE
2CB8;COPTIC CAPITAL LETTER DIALECT-P KAPA;aSMALL LETTER DIALECT-P KAPA
2CBA;COPTIC CAPITAL LETTER DIALECT-P NI;aSMALL LETTER DIALECT-P NI
2CBC;COPTIC CAPITAL LETTER CRYPTOGRAMMIC NI;aSMALL LETTER CRYPTOGRAMMIC NI
2CBE;COPTIC CAPITAL LETTER OLD COPTIC OOU;aSMALL LETTER OLD COPTIC OOU;aCAPITAL LETTER SAMPI
2CC1;COPTIC SMALL LETTER SAMPI;aCAPITAL LETTER CROSSED SHEI;aSMALL LETTER CROSSED SHEI
2CC4;COPTIC CAPITAL LETTER OLD COPTIC SHEI;aSMALL LETTER OLD COPTIC SHEI
2CC6;COPTIC CAPITAL LETTER OLD COPTIC ESH;aSMALL LETTER OLD COPTIC ESH
2CC8;COPTIC CAPITAL LETTER AKHMIMIC KHEI;aSMALL LETTER AKHMIMIC KHEI
2CCA;COPTIC CAPITAL LETTER DIALECT-P HORI;aSMALL LETTER DIALECT-P HORI
2CCC;COPTIC CAPITAL LETTER OLD COPTIC HORI;aSMALL LETTER OLD COPTIC HORI
2CCE;COPTIC CAPITAL LETTER OLD COPTIC HA;aSMALL LETTER OLD COPTIC HA;aCAPITAL LETTER L-SHAPED HA
2CD1;COPTIC SMALL LETTER L-SHAPED HA;aCAPITAL LETTER OLD COPTIC HEI;aSMALL LETTER OLD COPTIC HEI
2CD4;COPTIC CAPITAL LETTER OLD COPTIC HAT;aSMALL LETTER OLD COPTIC HAT
2CD6;COPTIC CAPITAL LETTER OLD COPTIC GANGIA;aSMALL LETTER OLD COPTIC GANGIA
2CD8;COPTIC CAPITAL LETTER OLD COPTIC DJA;aSMALL LETTER OLD COPTIC DJA
2CDA;COPTIC CAPITAL LETTER OLD COPTIC SHIMA;aSMALL LETTER OLD COPTIC SHIMA
2CDC;COPTIC CAPITAL LETTER OLD NUBIAN SHIMA;aSMALL LETTER OLD NUBIAN SHIMA
2CDE;COPTIC CAPITAL LETTER OLD NUBIAN NGI;aSMALL LETTER OLD NUBIAN NGI
2CE0;COPTIC CAPITAL LETTER OLD NUBIAN NYI;aSMALL LETTER OLD NUBIAN NYI
2CE2;COPTIC CAPITAL LETTER OLD NUBIAN WAU;aSMALL LETTER OLD NUBIAN WAU;aSYMBOL KAI;bMI RO;bPI RO
2CE7;COPTIC SYMBOL STAUROS;bTAU RO;bKHI RO;bSHIMA SIMA;aCAPITAL LETTER CRYPTOGRAMMIC SHEI
2CEC;COPTIC SMALL LETTER CRYPTOGRAMMIC SHEI;aCAPITAL LETTER CRYPTOGRAMMIC GANGIA
2CEE;COPTIC SMALL LETTER CRYPTOGRAMMIC GANGIA;aCOMBINING NI ABOVE;bSPIRITUS ASPER;cLENIS
2CF2;COPTIC CAPITAL LETTER BOHAIRIC KHEI;aSMALL LETTER BOHAIRIC KHEI
2CF9;COPTIC OLD NUBIAN FULL STOP;cDIRECT QUESTION MARK;cINDIRECT QUESTION MARK;cVERSE DIVIDER
2CFD;COPTIC FRACTION ONE HALF;aFULL STOP;aMORPHOLOGICAL DIVIDER;GEORGIAN SMALL LETTER AN;cBAN;cGAN
2D03;GEORGIAN SMALL LETTER DON;cEN;cVIN;cZEN;cTAN;cIN;cKAN;cLAS;cMAN;cNAR;cON;cPAR;cZHAR;cRAE;cSAN
2D12;GEORGIAN SMALL LETTER TAR;cUN;cPHAR;cKHAR;cGHAN;cQAR;cSHIN;cCHIN;cCAN;cJIL;cCIL;cCHAR;cXAN
2D1F;GEORGIAN SMALL LETTER JHAN;cHAE;cHE;cHIE;cWE;cHAR;cHOE
2D27;GEORGIAN SMALL LETTER YN
2D2D;GEORGIAN SMALL LETTER AEN
2D30;TIFINAGH LETTER YA;bYAB;bYABH;bYAG;bYAGHH;bBERBER ACADEMY YAJ;bYAJ;bYAD;bYADH;bYADD;bYADDH
2D3B;TIFINAGH LETTER YEY;bYAF;bYAK;bTUAREG YAK;bYAKHH;bYAH;bBERBER ACADEMY YAH;bTUAREG YAH;bYAHH
2D44;TIFINAGH LETTER YAA;bYAKH;bTUAREG YAKH;bYAQ;bTUAREG YAQ;bYI;bYAZH;bAHAGGAR YAZH;bTUAREG YAZH
2D4D;TIFINAGH LETTER YAL;bYAM;bYAN;bTUAREG YAGN;cYANG;bYAP;bYU;bYAR;bYARR;bYAGH;bTUAREG YAGH
2D58;TIFINAGH LETTER AYER YAGH;bYAS;bYASS;bYASH;bYAT;bYATH;bYACH;bYATT;bYAV;bYAW;bYAY;bYAZ
2D64;TIFINAGH LETTER TAWELLEMET YAZ;bYAZZ;bYE;bYO
2D6F;TIFINAGH MODIFIER LETTER LABIALIZATION MARK;aSEPARATOR MARK
2D7F;TIFINAGH CONSONANT JOINER;ETHIOPIC SYLLABLE LOA;bMOA;bROA;bSOA;bSHOA;bBOA;bTOA;bCOA;bNOA
2D89;ETHIOPIC SYLLABLE NYOA;bGLOTTAL OA;bZOA;bDOA;bDDOA;bJOA;bTHOA;bCHOA;bPHOA;bPOA;bGGWA;bGGWI
2D95;ETHIOPIC SYLLABLE GGWEE;bGGWE
2DA0;ETHIOPIC SYLLABLE SSA;bSSU;bSSI;bSSAA;bSSEE;bSSE;bSSO
2DA8;ETHIOPIC SYLLABLE CCA;bCCU;bCCI;bCCAA;bCCEE;bCCE;bCCO
2DB0;ETHIOPIC SYLLABLE ZZA;bZZU;bZZI;bZZAA;bZZEE;bZZE;bZZO
2DB8;ETHIOPIC SYLLABLE CCHA;bCCHU;bCCHI;bCCHAA;bCCHEE;bCCHE;bCCHO
2DC0;ETHIOPIC SYLLABLE QYA;bQYU;bQYI;bQYAA;bQYEE;bQYE;bQYO
2DC8;ETHIOPIC SYLLABLE KYA;bKYU;bKYI;bKYAA;bKYEE;bKYE;bKYO
2DD0;ETHIOPIC SYLLABLE XYA;bXYU;bXYI;bXYAA;bXYEE;bXYE;bXYO
2DD8;ETHIOPIC SYLLABLE GYA;bGYU;bGYI;bGYAA;bGYEE;bGYE;bGYO
2DE0;COMBINING CYRILLIC LETTER BE;cVE;cGHE;cDE;cZHE;cZE;cKA;cEL;cEM;cEN;cO;cPE;cER;cES;cTE;cHA
2DF0;COMBINING CYRILLIC LETTER TSE;cCHE;cSHA;cSHCHA;cFITA;cES-TE;cA;cIE;cDJERV;cMONOGRAPH UK;cYAT
2DFB;COMBINING CYRILLIC LETTER YU;cIOTIFIED A;cLITTLE YUS;cBIG YUS;cIOTIFIED BIG YUS
2E00;RIGHT ANGLE SUBSTITUTION MARKER;bDOTTED SUBSTITUTION MARKER;LEFT SUBSTITUTION BRACKET
2E03;RIGHT SUBSTITUTION BRACKET;LEFT DOTTED SUBSTITUTION BRACKET;RIGHT DOTTED SUBSTITUTION BRACKET
2E06;RAISED INTERPOLATION MARKER;aDOTTED INTERPOLATION MARKER;DOTTED TRANSPOSITION MARKER
2E09;LEFT TRANSPOSITION BRACKET;RIGHT TRANSPOSITION BRACKET;RAISED SQUARE
2E0C;LEFT RAISED OMISSION BRACKET;RIGHT RAISED OMISSION BRACKET;EDITORIAL CORONIS;PARAGRAPHOS
2E10;FORKED PARAGRAPHOS;REVERSED FORKED PARAGRAPHOS;HYPODIASTOLE;DOTTED OBELOS;DOWNWARDS ANCORA
2E15;UPWARDS ANCORA;DOTTED RIGHT-POINTING ANGLE;DOUBLE OBLIQUE HYPHEN;INVERTED INTERROBANG
2E19;PALM BRANCH;HYPHEN WITH DIAERESIS;TILDE WITH RING ABOVE;LEFT LOW PARAPHRASE BRACKET
2E1D;RIGHT LOW PARAPHRASE BRACKET;TILDE WITH DOT ABOVE;cBELOW;LEFT VERTICAL BAR WITH QUILL
2E21;RIGHT VERTICAL BAR WITH QUILL;TOP LEFT HALF BRACKET;aRIGHT HALF BRACKET
2E24;BOTTOM LEFT HALF BRACKET;aRIGHT HALF BRACKET;LEFT SIDEWAYS U BRACKET;RIGHT SIDEWAYS U BRACKET
2E28;LEFT DOUBLE PARENTHESIS;RIGHT DOUBLE PARENTHESIS;TWO DOTS OVER ONE DOT PUNCTUATION
2E2B;ONE DOT OVER TWO DOTS PUNCTUATION;SQUARED FOUR DOT PUNCTUATION;FIVE DOT MARK
2E2E;REVERSED QUESTION MARK;VERTICAL TILDE;RING POINT;WORD SEPARATOR MIDDLE DOT;TURNED COMMA
2E33;RAISED DOT;aCOMMA;TURNED SEMICOLON;DAGGER WITH LEFT GUARD;bRIGHT GUARD;TURNED DAGGER
2E39;TOP HALF SECTION SIGN;TWO-EM DASH;THREE-EM DASH;STENOGRAPHIC FULL STOP;VERTICAL SIX DOTS
2E3E;WIGGLY VERTICAL LINE;CAPITULUM;DOUBLE HYPHEN;REVERSED COMMA
2E42;DOUBLE LOW-REVERSED-9 QUOTATION MARK;DASH WITH LEFT UPTURN;DOUBLE SUSPENSION MARK
2E45;INVERTED LOW KAVYKA;cWITH KAVYKA ABOVE;LOW KAVYKA;bWITH DOT;DOUBLE STACKED COMMA
2E4A;DOTTED SOLIDUS;TRIPLE DAGGER;MEDIEVAL COMMA;PARAGRAPHUS MARK;PUNCTUS ELEVATUS MARK
2E4F;CORNISH VERSE DIVIDER;CROSS PATTY WITH RIGHT CROSSBAR;cLEFT CROSSBAR;TIRONIAN SIGN CAPITAL ET
2E53;MEDIEVAL EXCLAMATION MARK;aQUESTION MARK;LEFT SQUARE BRACKET WITH STROKE
2E56;RIGHT SQUARE BRACKET WITH STROKE;LEFT SQUARE BRACKET WITH DOUBLE STROKE
2E58;RIGHT SQUARE BRACKET WITH DOUBLE STROKE;TOP HALF LEFT PARENTHESIS;bRIGHT PARENTHESIS
2E5B;BOTTOM HALF LEFT PARENTHESIS;bRIGHT PARENTHESIS;OBLIQUE HYPHEN"

end RecordSchema.Text.CharacterName
