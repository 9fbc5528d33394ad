/-! Names of notations, of letters for mathematics, of pictures and of tags. -/

namespace RecordSchema.Text.CharacterName

def pictures : String := "1D000;BYZANTINE MUSICAL SYMBOL PSILI;cDASEIA;cPERISPOMENI;cOXEIA EKFONITIKON;dDIPLI
1D005;BYZANTINE MUSICAL SYMBOL VAREIA EKFONITIKON;dDIPLI;cKATHISTI;cSYRMATIKI;cPARAKLITIKI
1D00A;BYZANTINE MUSICAL SYMBOL YPOKRISIS;dDIPLI;cKREMASTI;cAPESO EKFONITIKON;cEXO EKFONITIKON
1D00F;BYZANTINE MUSICAL SYMBOL TELEIA;cKENTIMATA;cAPOSTROFOS;dDIPLI;cSYNEVMA;cTHITA
1D015;BYZANTINE MUSICAL SYMBOL OLIGON ARCHAION;cGORGON ARCHAION;cPSILON;cCHAMILON;cVATHY
1D01A;BYZANTINE MUSICAL SYMBOL ISON ARCHAION;cKENTIMA ARCHAION;cKENTIMATA ARCHAION;cSAXIMATA
1D01E;BYZANTINE MUSICAL SYMBOL PARICHON;cSTAVROS APODEXIA;cOXEIAI ARCHAION;cVAREIAI ARCHAION
1D022;BYZANTINE MUSICAL SYMBOL APODERMA ARCHAION;cAPOTHEMA;cKLASMA;cREVMA;cPIASMA ARCHAION
1D027;BYZANTINE MUSICAL SYMBOL TINAGMA;cANATRICHISMA;cSEISMA;cSYNAGMA ARCHAION;dMETA STAVROU
1D02C;BYZANTINE MUSICAL SYMBOL OYRANISMA ARCHAION;cTHEMA;cLEMOI;cDYO;cTRIA;cTESSERA;cKRATIMATA
1D033;BYZANTINE MUSICAL SYMBOL APESO EXO NEO;cFTHORA ARCHAION;cIMIFTHORA;cTROMIKON ARCHAION
1D037;BYZANTINE MUSICAL SYMBOL KATAVA TROMIKON;cPELASTON;cPSIFISTON;cKONTEVMA;cCHOREVMA ARCHAION
1D03C;BYZANTINE MUSICAL SYMBOL RAPISMA;cPARAKALESMA ARCHAION;cPARAKLITIKI ARCHAION;cICHADIN;cNANA
1D041;BYZANTINE MUSICAL SYMBOL PETASMA;cKONTEVMA ALLO;cTROMIKON ALLO;cSTRAGGISMATA;cGRONTHISMATA
1D046;BYZANTINE MUSICAL SYMBOL ISON NEO;cOLIGON NEO;cOXEIA NEO;cPETASTI;cKOUFISMA;cPETASTOKOUFISMA
1D04C;BYZANTINE MUSICAL SYMBOL KRATIMOKOUFISMA;cPELASTON NEO;cKENTIMATA NEO ANO;cKENTIMA NEO ANO
1D050;BYZANTINE MUSICAL SYMBOL YPSILI;cAPOSTROFOS NEO;cAPOSTROFOI SYNDESMOS NEO;cYPORROI
1D054;BYZANTINE MUSICAL SYMBOL KRATIMOYPORROON;cELAFRON;cCHAMILI;cMIKRON ISON;cVAREIA NEO
1D059;BYZANTINE MUSICAL SYMBOL PIASMA NEO;cPSIFISTON NEO;cOMALON;cANTIKENOMA;cLYGISMA
1D05E;BYZANTINE MUSICAL SYMBOL PARAKLITIKI NEO;cPARAKALESMA NEO;cETERON PARAKALESMA;cKYLISMA
1D062;BYZANTINE MUSICAL SYMBOL ANTIKENOKYLISMA;cTROMIKON NEO;cEKSTREPTON;cSYNAGMA NEO;cSYRMA
1D067;BYZANTINE MUSICAL SYMBOL CHOREVMA NEO;cEPEGERMA;cSEISMA NEO;cXIRON KLASMA;cTROMIKOPSIFISTON
1D06C;BYZANTINE MUSICAL SYMBOL PSIFISTOLYGISMA;cTROMIKOLYGISMA;cTROMIKOPARAKALESMA
1D06F;BYZANTINE MUSICAL SYMBOL PSIFISTOPARAKALESMA;cTROMIKOSYNAGMA;cPSIFISTOSYNAGMA
1D072;BYZANTINE MUSICAL SYMBOL GORGOSYNTHETON;cARGOSYNTHETON;cETERON ARGOSYNTHETON;cOYRANISMA NEO
1D076;BYZANTINE MUSICAL SYMBOL THEMATISMOS ESO;dEXO;cTHEMA APLOUN;cTHES KAI APOTHES;cKATAVASMA
1D07B;BYZANTINE MUSICAL SYMBOL ENDOFONON;cYFEN KATO;dANO;cSTAVROS;cKLASMA ANO;cDIPLI ARCHAION
1D081;BYZANTINE MUSICAL SYMBOL KRATIMA ARCHAION;dALLO;dNEO;cAPODERMA NEO;cAPLI;cDIPLI;cTRIPLI
1D088;BYZANTINE MUSICAL SYMBOL TETRAPLI;cKORONIS;cLEIMMA ENOS CHRONOU;dDYO CHRONON;dTRION CHRONON
1D08D;BYZANTINE MUSICAL SYMBOL LEIMMA TESSARON CHRONON;dIMISEOS CHRONOU;cGORGON NEO ANO
1D090;BYZANTINE MUSICAL SYMBOL GORGON PARESTIGMENON ARISTERA;eDEXIA;cDIGORGON
1D093;BYZANTINE MUSICAL SYMBOL DIGORGON PARESTIGMENON ARISTERA KATO;fANO;eDEXIA;cTRIGORGON;cARGON
1D098;BYZANTINE MUSICAL SYMBOL IMIDIARGON;cDIARGON;cAGOGI POLI ARGI;dARGOTERI;dARGI;dMETRIA;dMESI
1D09F;BYZANTINE MUSICAL SYMBOL AGOGI GORGI;dGORGOTERI;dPOLI GORGI;cMARTYRIA PROTOS ICHOS
1D0A3;BYZANTINE MUSICAL SYMBOL MARTYRIA ALLI PROTOS ICHOS;dDEYTEROS ICHOS;dALLI DEYTEROS ICHOS
1D0A6;BYZANTINE MUSICAL SYMBOL MARTYRIA TRITOS ICHOS;dTRIFONIAS;dTETARTOS ICHOS;eLEGETOS ICHOS
1D0AA;BYZANTINE MUSICAL SYMBOL MARTYRIA LEGETOS ICHOS;dPLAGIOS ICHOS;cISAKIA TELOUS ICHIMATOS
1D0AD;BYZANTINE MUSICAL SYMBOL APOSTROFOI TELOUS ICHIMATOS;cFANEROSIS TETRAFONIAS;dMONOFONIAS
1D0B0;BYZANTINE MUSICAL SYMBOL FANEROSIS DIFONIAS;cMARTYRIA VARYS ICHOS;dPROTOVARYS ICHOS
1D0B3;BYZANTINE MUSICAL SYMBOL MARTYRIA PLAGIOS TETARTOS ICHOS;cGORTHMIKON N APLOUN;eDIPLOUN
1D0B6;BYZANTINE MUSICAL SYMBOL ENARXIS KAI FTHORA VOU;cIMIFONON;cIMIFTHORON
1D0B9;BYZANTINE MUSICAL SYMBOL FTHORA ARCHAION DEYTEROU ICHOU;dDIATONIKI PA;eNANA;dNAOS ICHOS
1D0BD;BYZANTINE MUSICAL SYMBOL FTHORA DIATONIKI DI;dSKLIRON DIATONON DI;dDIATONIKI KE;eZO;eNI KATO
1D0C2;BYZANTINE MUSICAL SYMBOL FTHORA DIATONIKI NI ANO;dMALAKON CHROMA DIFONIAS;fMONOFONIAS
1D0C5;BYZANTINE MUSICAL SYMBOL FHTORA SKLIRON CHROMA VASIS;cFTHORA SKLIRON CHROMA SYNAFI;dNENANO
1D0C8;BYZANTINE MUSICAL SYMBOL CHROA ZYGOS;dKLITON;dSPATHI;cFTHORA I YFESIS TETARTIMORION
1D0CC;BYZANTINE MUSICAL SYMBOL FTHORA ENARMONIOS ANTIFONIA;cYFESIS TRITIMORION;cDIESIS TRITIMORION
1D0CF;BYZANTINE MUSICAL SYMBOL DIESIS TETARTIMORION;dAPLI DYO DODEKATA
1D0D1;BYZANTINE MUSICAL SYMBOL DIESIS MONOGRAMMOS TESSERA DODEKATA;dDIGRAMMOS EX DODEKATA
1D0D3;BYZANTINE MUSICAL SYMBOL DIESIS TRIGRAMMOS OKTO DODEKATA;cYFESIS APLI DYO DODEKATA
1D0D5;BYZANTINE MUSICAL SYMBOL YFESIS MONOGRAMMOS TESSERA DODEKATA;dDIGRAMMOS EX DODEKATA
1D0D7;BYZANTINE MUSICAL SYMBOL YFESIS TRIGRAMMOS OKTO DODEKATA;cGENIKI DIESIS;dYFESIS
1D0DA;BYZANTINE MUSICAL SYMBOL DIASTOLI APLI MIKRI;eMEGALI;dDIPLI;dTHESEOS;cSIMANSIS THESEOS
1D0DF;BYZANTINE MUSICAL SYMBOL SIMANSIS THESEOS DISIMOU;eTRISIMOU;eTETRASIMOU;dARSEOS;eDISIMOU
1D0E4;BYZANTINE MUSICAL SYMBOL SIMANSIS ARSEOS TRISIMOU;eTETRASIMOU;cDIGRAMMA GG;cDIFTOGGOS OU
1D0E8;BYZANTINE MUSICAL SYMBOL STIGMA;cARKTIKO PA;dVOU;dGA;dDI;dKE;dZO;dNI;cKENTIMATA NEO MESO
1D0F1;BYZANTINE MUSICAL SYMBOL KENTIMA NEO MESO;cKENTIMATA NEO KATO;cKENTIMA NEO KATO;cKLASMA KATO
1D0F5;BYZANTINE MUSICAL SYMBOL GORGON NEO KATO
1D100;MUSICAL SYMBOL SINGLE BARLINE;bDOUBLE BARLINE;bFINAL BARLINE;bREVERSE FINAL BARLINE
1D104;MUSICAL SYMBOL DASHED BARLINE;bSHORT BARLINE;bLEFT REPEAT SIGN;bRIGHT REPEAT SIGN
1D108;MUSICAL SYMBOL REPEAT DOTS;bDAL SEGNO;bDA CAPO;bSEGNO;bCODA;bREPEATED FIGURE-1;cFIGURE-2
1D10F;MUSICAL SYMBOL REPEATED FIGURE-3;bFERMATA;cBELOW;bBREATH MARK;bCAESURA;bBRACE;bBRACKET
1D116;MUSICAL SYMBOL ONE-LINE STAFF;bTWO-LINE STAFF;bTHREE-LINE STAFF;bFOUR-LINE STAFF
1D11A;MUSICAL SYMBOL FIVE-LINE STAFF;bSIX-LINE STAFF;bSIX-STRING FRETBOARD;bFOUR-STRING FRETBOARD
1D11E;MUSICAL SYMBOL G CLEF;dOTTAVA ALTA;eBASSA;bC CLEF;bF CLEF;dOTTAVA ALTA;eBASSA;bDRUM CLEF-1
1D126;MUSICAL SYMBOL DRUM CLEF-2
1D129;MUSICAL SYMBOL MULTIPLE MEASURE REST;bDOUBLE SHARP;cFLAT;bFLAT UP;cDOWN;bNATURAL UP;cDOWN
1D130;MUSICAL SYMBOL SHARP UP;cDOWN;bQUARTER TONE SHARP;dFLAT;bCOMMON TIME;bCUT TIME;bOTTAVA ALTA
1D137;MUSICAL SYMBOL OTTAVA BASSA;bQUINDICESIMA ALTA;cBASSA;bMULTI REST;bWHOLE REST;bHALF REST
1D13D;MUSICAL SYMBOL QUARTER REST;bEIGHTH REST;bSIXTEENTH REST;bTHIRTY-SECOND REST
1D141;MUSICAL SYMBOL SIXTY-FOURTH REST;bONE HUNDRED TWENTY-EIGHTH REST;bX NOTEHEAD;bPLUS NOTEHEAD
1D145;MUSICAL SYMBOL CIRCLE X NOTEHEAD;bSQUARE NOTEHEAD WHITE;dBLACK;bTRIANGLE NOTEHEAD UP WHITE
1D149;MUSICAL SYMBOL TRIANGLE NOTEHEAD UP BLACK;dLEFT WHITE;eBLACK;dRIGHT WHITE;eBLACK;dDOWN WHITE
1D14F;MUSICAL SYMBOL TRIANGLE NOTEHEAD DOWN BLACK;dUP RIGHT WHITE;fBLACK;bMOON NOTEHEAD WHITE
1D153;MUSICAL SYMBOL MOON NOTEHEAD BLACK;bTRIANGLE-ROUND NOTEHEAD DOWN WHITE;eBLACK
1D156;MUSICAL SYMBOL PARENTHESIS NOTEHEAD;bVOID NOTEHEAD;bNOTEHEAD BLACK;bNULL NOTEHEAD
1D15A;MUSICAL SYMBOL CLUSTER NOTEHEAD WHITE;dBLACK;bBREVE;bWHOLE NOTE;bHALF NOTE;bQUARTER NOTE
1D160;MUSICAL SYMBOL EIGHTH NOTE;bSIXTEENTH NOTE;bTHIRTY-SECOND NOTE;bSIXTY-FOURTH NOTE
1D164;MUSICAL SYMBOL ONE HUNDRED TWENTY-EIGHTH NOTE;bCOMBINING STEM;cSPRECHGESANG STEM;cTREMOLO-1
1D168;MUSICAL SYMBOL COMBINING TREMOLO-2;cTREMOLO-3;bFINGERED TREMOLO-1;cTREMOLO-2;cTREMOLO-3
1D16D;MUSICAL SYMBOL COMBINING AUGMENTATION DOT;cFLAG-1;cFLAG-2;cFLAG-3;cFLAG-4;cFLAG-5
1D173;MUSICAL SYMBOL BEGIN BEAM;bEND BEAM;bBEGIN TIE;bEND TIE;bBEGIN SLUR;bEND SLUR;bBEGIN PHRASE
1D17A;MUSICAL SYMBOL END PHRASE;bCOMBINING ACCENT;cSTACCATO;cTENUTO;cSTACCATISSIMO;cMARCATO
1D180;MUSICAL SYMBOL COMBINING MARCATO-STACCATO;cACCENT-STACCATO;cLOURE;bARPEGGIATO UP;cDOWN
1D185;MUSICAL SYMBOL COMBINING DOIT;cRIP;cFLIP;cSMEAR;cBEND;cDOUBLE TONGUE;cTRIPLE TONGUE
1D18C;MUSICAL SYMBOL RINFORZANDO;bSUBITO;bZ;bPIANO;bMEZZO;bFORTE;bCRESCENDO;bDECRESCENDO
1D194;MUSICAL SYMBOL GRACE NOTE SLASH;dNO SLASH;bTR;bTURN;bINVERTED TURN;bTURN SLASH;cUP
1D19B;MUSICAL SYMBOL ORNAMENT STROKE-1;cSTROKE-2;cSTROKE-3;cSTROKE-4;cSTROKE-5;cSTROKE-6;cSTROKE-7
1D1A2;MUSICAL SYMBOL ORNAMENT STROKE-8;cSTROKE-9;cSTROKE-10;cSTROKE-11;bHAUPTSTIMME;bNEBENSTIMME
1D1A8;MUSICAL SYMBOL END OF STIMME;bDEGREE SLASH;bCOMBINING DOWN BOW;cUP BOW;cHARMONIC
1D1AD;MUSICAL SYMBOL COMBINING SNAP PIZZICATO;bPEDAL MARK;cUP MARK;bHALF PEDAL MARK;bGLISSANDO UP
1D1B2;MUSICAL SYMBOL GLISSANDO DOWN;bWITH FINGERNAILS;bDAMP;cALL;bMAXIMA;bLONGA;bBREVIS
1D1B9;MUSICAL SYMBOL SEMIBREVIS WHITE;cBLACK;bMINIMA;cBLACK;bSEMIMINIMA WHITE;cBLACK;bFUSA WHITE
1D1C0;MUSICAL SYMBOL FUSA BLACK;bLONGA PERFECTA REST;cIMPERFECTA REST;bBREVIS REST
1D1C4;MUSICAL SYMBOL SEMIBREVIS REST;bMINIMA REST;bSEMIMINIMA REST
1D1C7;MUSICAL SYMBOL TEMPUS PERFECTUM CUM PROLATIONE PERFECTA;fIMPERFECTA;fPERFECTA DIMINUTION-1
1D1CA;MUSICAL SYMBOL TEMPUS IMPERFECTUM CUM PROLATIONE PERFECTA;fIMPERFECTA;gDIMINUTION-1
1D1CD;MUSICAL SYMBOL TEMPUS IMPERFECTUM CUM PROLATIONE IMPERFECTA DIMINUTION-2;gDIMINUTION-3
1D1CF;MUSICAL SYMBOL CROIX;bGREGORIAN C CLEF;cF CLEF;bSQUARE B;bVIRGA;bPODATUS;bCLIVIS;bSCANDICUS
1D1D7;MUSICAL SYMBOL CLIMACUS;bTORCULUS;bPORRECTUS;cFLEXUS;bSCANDICUS FLEXUS;bTORCULUS RESUPINUS
1D1DD;MUSICAL SYMBOL PES SUBPUNCTIS;bKIEVAN C CLEF;cEND OF PIECE;cFINAL NOTE;cRECITATIVE MARK
1D1E2;MUSICAL SYMBOL KIEVAN WHOLE NOTE;cHALF NOTE;cQUARTER NOTE STEM DOWN;fUP
1D1E6;MUSICAL SYMBOL KIEVAN EIGHTH NOTE STEM DOWN;fUP;cFLAT SIGN;bSORI;bKORON
1D200;GREEK VOCAL NOTATION SYMBOL-1;cSYMBOL-2;cSYMBOL-3;cSYMBOL-4;cSYMBOL-5;cSYMBOL-6;cSYMBOL-7
1D207;GREEK VOCAL NOTATION SYMBOL-8;cSYMBOL-9;cSYMBOL-10;cSYMBOL-11;cSYMBOL-12;cSYMBOL-13
1D20D;GREEK VOCAL NOTATION SYMBOL-14;cSYMBOL-15;cSYMBOL-16;cSYMBOL-17;cSYMBOL-18;cSYMBOL-19
1D213;GREEK VOCAL NOTATION SYMBOL-20;cSYMBOL-21;cSYMBOL-22;cSYMBOL-23;cSYMBOL-24;cSYMBOL-50
1D219;GREEK VOCAL NOTATION SYMBOL-51;cSYMBOL-52;cSYMBOL-53;cSYMBOL-54
1D21D;GREEK INSTRUMENTAL NOTATION SYMBOL-1;cSYMBOL-2;cSYMBOL-4;cSYMBOL-5;cSYMBOL-7;cSYMBOL-8
1D223;GREEK INSTRUMENTAL NOTATION SYMBOL-11;cSYMBOL-12;cSYMBOL-13;cSYMBOL-14;cSYMBOL-17;cSYMBOL-18
1D229;GREEK INSTRUMENTAL NOTATION SYMBOL-19;cSYMBOL-23;cSYMBOL-24;cSYMBOL-25;cSYMBOL-26;cSYMBOL-27
1D22F;GREEK INSTRUMENTAL NOTATION SYMBOL-29;cSYMBOL-30;cSYMBOL-32;cSYMBOL-36;cSYMBOL-37;cSYMBOL-38
1D235;GREEK INSTRUMENTAL NOTATION SYMBOL-39;cSYMBOL-40;cSYMBOL-42;cSYMBOL-43;cSYMBOL-45;cSYMBOL-47
1D23B;GREEK INSTRUMENTAL NOTATION SYMBOL-48;cSYMBOL-49;cSYMBOL-50;cSYMBOL-51;cSYMBOL-52;cSYMBOL-53
1D241;GREEK INSTRUMENTAL NOTATION SYMBOL-54;COMBINING GREEK MUSICAL TRISEME;cTETRASEME;cPENTASEME
1D245;GREEK MUSICAL LEIMMA
1D2E0;MAYAN NUMERAL ZERO;bONE;bTWO;bTHREE;bFOUR;bFIVE;bSIX;bSEVEN;bEIGHT;bNINE;bTEN;bELEVEN
1D2EC;MAYAN NUMERAL TWELVE;bTHIRTEEN;bFOURTEEN;bFIFTEEN;bSIXTEEN;bSEVENTEEN;bEIGHTEEN;bNINETEEN
1D300;MONOGRAM FOR EARTH;DIGRAM FOR HEAVENLY EARTH;bHUMAN EARTH;bEARTHLY HEAVEN;cHUMAN;bEARTH
1D306;TETRAGRAM FOR CENTRE;bFULL CIRCLE;bMIRED;bBARRIER;bKEEPING SMALL;bCONTRARIETY;bASCENT
1D30D;TETRAGRAM FOR OPPOSITION;bBRANCHING OUT;bDEFECTIVENESS OR DISTORTION;bDIVERGENCE
1D311;TETRAGRAM FOR YOUTHFULNESS;bINCREASE;bPENETRATION;bREACH;bCONTACT;bHOLDING BACK;bWAITING
1D318;TETRAGRAM FOR FOLLOWING;bADVANCE;bRELEASE;bRESISTANCE;bEASE;bJOY;bCONTENTION;bENDEAVOUR
1D320;TETRAGRAM FOR DUTIES;bCHANGE;bDECISIVENESS;bBOLD RESOLUTION;bPACKING;bLEGION;bCLOSENESS
1D327;TETRAGRAM FOR KINSHIP;bGATHERING;bSTRENGTH;bPURITY;bFULLNESS;bRESIDENCE;bLAW OR MODEL
1D32E;TETRAGRAM FOR RESPONSE;bGOING TO MEET;bENCOUNTERS;bSTOVE;bGREATNESS;bENLARGEMENT;bPATTERN
1D335;TETRAGRAM FOR RITUAL;bFLIGHT;bVASTNESS OR WASTING;bCONSTANCY;bMEASURE;bETERNITY;bUNITY
1D33C;TETRAGRAM FOR DIMINISHMENT;bCLOSED MOUTH;bGUARDEDNESS;bGATHERING IN;bMASSING;bACCUMULATION
1D342;TETRAGRAM FOR EMBELLISHMENT;bDOUBT;bWATCH;bSINKING;bINNER;bDEPARTURE;bDARKENING;bDIMMING
1D34A;TETRAGRAM FOR EXHAUSTION;bSEVERANCE;bSTOPPAGE;bHARDNESS;bCOMPLETION;bCLOSURE;bFAILURE
1D351;TETRAGRAM FOR AGGRAVATION;bCOMPLIANCE;bON THE VERGE;bDIFFICULTIES;bLABOURING;bFOSTERING
1D360;COUNTING ROD UNIT DIGIT ONE;dTWO;dTHREE;dFOUR;dFIVE;dSIX;dSEVEN;dEIGHT;dNINE;bTENS DIGIT ONE
1D36A;COUNTING ROD TENS DIGIT TWO;dTHREE;dFOUR;dFIVE;dSIX;dSEVEN;dEIGHT;dNINE
1D372;IDEOGRAPHIC TALLY MARK ONE;cTWO;cTHREE;cFOUR;cFIVE;TALLY MARK ONE;bFIVE
1D400;MATHEMATICAL BOLD CAPITAL A;cB;cC;cD;cE;cF;cG;cH;cI;cJ;cK;cL;cM;cN;cO;cP;cQ;cR;cS;cT;cU;cV
1D416;MATHEMATICAL BOLD CAPITAL W;cX;cY;cZ;bSMALL A;cB;cC;cD;cE;cF;cG;cH;cI;cJ;cK;cL;cM;cN;cO;cP
1D42A;MATHEMATICAL BOLD SMALL Q;cR;cS;cT;cU;cV;cW;cX;cY;cZ;aITALIC CAPITAL A;cB;cC;cD;cE;cF;cG;cH
1D43C;MATHEMATICAL ITALIC CAPITAL I;cJ;cK;cL;cM;cN;cO;cP;cQ;cR;cS;cT;cU;cV;cW;cX;cY;cZ;bSMALL A;cB
1D450;MATHEMATICAL ITALIC SMALL C;cD;cE;cF;cG
1D456;MATHEMATICAL ITALIC SMALL I;cJ;cK;cL;cM;cN;cO;cP;cQ;cR;cS;cT;cU;cV;cW;cX;cY;cZ
1D468;MATHEMATICAL BOLD ITALIC CAPITAL A;dB;dC;dD;dE;dF;dG;dH;dI;dJ;dK;dL;dM;dN;dO;dP;dQ;dR;dS;dT
1D47C;MATHEMATICAL BOLD ITALIC CAPITAL U;dV;dW;dX;dY;dZ;cSMALL A;dB;dC;dD;dE;dF;dG;dH;dI;dJ;dK;dL
1D48E;MATHEMATICAL BOLD ITALIC SMALL M;dN;dO;dP;dQ;dR;dS;dT;dU;dV;dW;dX;dY;dZ;aSCRIPT CAPITAL A
1D49E;MATHEMATICAL SCRIPT CAPITAL C;cD
1D4A2;MATHEMATICAL SCRIPT CAPITAL G
1D4A5;MATHEMATICAL SCRIPT CAPITAL J;cK
1D4A9;MATHEMATICAL SCRIPT CAPITAL N;cO;cP;cQ
1D4AE;MATHEMATICAL SCRIPT CAPITAL S;cT;cU;cV;cW;cX;cY;cZ;bSMALL A;cB;cC;cD
1D4BB;MATHEMATICAL SCRIPT SMALL F
1D4BD;MATHEMATICAL SCRIPT SMALL H;cI;cJ;cK;cL;cM;cN
1D4C5;MATHEMATICAL SCRIPT SMALL P;cQ;cR;cS;cT;cU;cV;cW;cX;cY;cZ;aBOLD SCRIPT CAPITAL A;dB;dC;dD;dE
1D4D5;MATHEMATICAL BOLD SCRIPT CAPITAL F;dG;dH;dI;dJ;dK;dL;dM;dN;dO;dP;dQ;dR;dS;dT;dU;dV;dW;dX;dY
1D4E9;MATHEMATICAL BOLD SCRIPT CAPITAL Z;cSMALL A;dB;dC;dD;dE;dF;dG;dH;dI;dJ;dK;dL;dM;dN;dO;dP;dQ
1D4FB;MATHEMATICAL BOLD SCRIPT SMALL R;dS;dT;dU;dV;dW;dX;dY;dZ;aFRAKTUR CAPITAL A;cB
1D507;MATHEMATICAL FRAKTUR CAPITAL D;cE;cF;cG
1D50D;MATHEMATICAL FRAKTUR CAPITAL J;cK;cL;cM;cN;cO;cP;cQ
1D516;MATHEMATICAL FRAKTUR CAPITAL S;cT;cU;cV;cW;cX;cY
1D51E;MATHEMATICAL FRAKTUR SMALL A;cB;cC;cD;cE;cF;cG;cH;cI;cJ;cK;cL;cM;cN;cO;cP;cQ;cR;cS;cT;cU;cV
1D534;MATHEMATICAL FRAKTUR SMALL W;cX;cY;cZ;aDOUBLE-STRUCK CAPITAL A;cB
1D53B;MATHEMATICAL DOUBLE-STRUCK CAPITAL D;cE;cF;cG
1D540;MATHEMATICAL DOUBLE-STRUCK CAPITAL I;cJ;cK;cL;cM
1D546;MATHEMATICAL DOUBLE-STRUCK CAPITAL O
1D54A;MATHEMATICAL DOUBLE-STRUCK CAPITAL S;cT;cU;cV;cW;cX;cY
1D552;MATHEMATICAL DOUBLE-STRUCK SMALL A;cB;cC;cD;cE;cF;cG;cH;cI;cJ;cK;cL;cM;cN;cO;cP;cQ;cR;cS;cT
1D566;MATHEMATICAL DOUBLE-STRUCK SMALL U;cV;cW;cX;cY;cZ;aBOLD FRAKTUR CAPITAL A;dB;dC;dD;dE;dF;dG
1D573;MATHEMATICAL BOLD FRAKTUR CAPITAL H;dI;dJ;dK;dL;dM;dN;dO;dP;dQ;dR;dS;dT;dU;dV;dW;dX;dY;dZ
1D586;MATHEMATICAL BOLD FRAKTUR SMALL A;dB;dC;dD;dE;dF;dG;dH;dI;dJ;dK;dL;dM;dN;dO;dP;dQ;dR;dS;dT
1D59A;MATHEMATICAL BOLD FRAKTUR SMALL U;dV;dW;dX;dY;dZ;aSANS-SERIF CAPITAL A;cB;cC;cD;cE;cF;cG;cH
1D5A8;MATHEMATICAL SANS-SERIF CAPITAL I;cJ;cK;cL;cM;cN;cO;cP;cQ;cR;cS;cT;cU;cV;cW;cX;cY;cZ
1D5BA;MATHEMATICAL SANS-SERIF SMALL A;cB;cC;cD;cE;cF;cG;cH;cI;cJ;cK;cL;cM;cN;cO;cP;cQ;cR;cS;cT;cU
1D5CF;MATHEMATICAL SANS-SERIF SMALL V;cW;cX;cY;cZ;bBOLD CAPITAL A;dB;dC;dD;dE;dF;dG;dH;dI;dJ;dK;dL
1D5E0;MATHEMATICAL SANS-SERIF BOLD CAPITAL M;dN;dO;dP;dQ;dR;dS;dT;dU;dV;dW;dX;dY;dZ;cSMALL A;dB;dC
1D5F1;MATHEMATICAL SANS-SERIF BOLD SMALL D;dE;dF;dG;dH;dI;dJ;dK;dL;dM;dN;dO;dP;dQ;dR;dS;dT;dU;dV
1D604;MATHEMATICAL SANS-SERIF BOLD SMALL W;dX;dY;dZ;bITALIC CAPITAL A;dB;dC;dD;dE;dF;dG;dH;dI;dJ
1D612;MATHEMATICAL SANS-SERIF ITALIC CAPITAL K;dL;dM;dN;dO;dP;dQ;dR;dS;dT;dU;dV;dW;dX;dY;dZ
1D622;MATHEMATICAL SANS-SERIF ITALIC SMALL A;dB;dC;dD;dE;dF;dG;dH;dI;dJ;dK;dL;dM;dN;dO;dP;dQ;dR;dS
1D635;MATHEMATICAL SANS-SERIF ITALIC SMALL T;dU;dV;dW;dX;dY;dZ;bBOLD ITALIC CAPITAL A;eB;eC;eD;eE
1D641;MATHEMATICAL SANS-SERIF BOLD ITALIC CAPITAL F;eG;eH;eI;eJ;eK;eL;eM;eN;eO;eP;eQ;eR;eS;eT;eU
1D651;MATHEMATICAL SANS-SERIF BOLD ITALIC CAPITAL V;eW;eX;eY;eZ;dSMALL A;eB;eC;eD;eE;eF;eG;eH;eI
1D65F;MATHEMATICAL SANS-SERIF BOLD ITALIC SMALL J;eK;eL;eM;eN;eO;eP;eQ;eR;eS;eT;eU;eV;eW;eX;eY;eZ
1D670;MATHEMATICAL MONOSPACE CAPITAL A;cB;cC;cD;cE;cF;cG;cH;cI;cJ;cK;cL;cM;cN;cO;cP;cQ;cR;cS;cT;cU
1D685;MATHEMATICAL MONOSPACE CAPITAL V;cW;cX;cY;cZ;bSMALL A;cB;cC;cD;cE;cF;cG;cH;cI;cJ;cK;cL;cM;cN
1D698;MATHEMATICAL MONOSPACE SMALL O;cP;cQ;cR;cS;cT;cU;cV;cW;cX;cY;cZ;aITALIC SMALL DOTLESS I;dJ
1D6A8;MATHEMATICAL BOLD CAPITAL ALPHA;cBETA;cGAMMA;cDELTA;cEPSILON;cZETA;cETA;cTHETA;cIOTA;cKAPPA
1D6B2;MATHEMATICAL BOLD CAPITAL LAMDA;cMU;cNU;cXI;cOMICRON;cPI;cRHO;cTHETA SYMBOL;cSIGMA;cTAU
1D6BC;MATHEMATICAL BOLD CAPITAL UPSILON;cPHI;cCHI;cPSI;cOMEGA;bNABLA;bSMALL ALPHA;cBETA;cGAMMA
1D6C5;MATHEMATICAL BOLD SMALL DELTA;cEPSILON;cZETA;cETA;cTHETA;cIOTA;cKAPPA;cLAMDA;cMU;cNU;cXI
1D6D0;MATHEMATICAL BOLD SMALL OMICRON;cPI;cRHO;cFINAL SIGMA;cSIGMA;cTAU;cUPSILON;cPHI;cCHI;cPSI
1D6DA;MATHEMATICAL BOLD SMALL OMEGA;bPARTIAL DIFFERENTIAL;bEPSILON SYMBOL;bTHETA SYMBOL
1D6DE;MATHEMATICAL BOLD KAPPA SYMBOL;bPHI SYMBOL;bRHO SYMBOL;bPI SYMBOL;aITALIC CAPITAL ALPHA
1D6E3;MATHEMATICAL ITALIC CAPITAL BETA;cGAMMA;cDELTA;cEPSILON;cZETA;cETA;cTHETA;cIOTA;cKAPPA
1D6EC;MATHEMATICAL ITALIC CAPITAL LAMDA;cMU;cNU;cXI;cOMICRON;cPI;cRHO;cTHETA SYMBOL;cSIGMA;cTAU
1D6F6;MATHEMATICAL ITALIC CAPITAL UPSILON;cPHI;cCHI;cPSI;cOMEGA;bNABLA;bSMALL ALPHA;cBETA;cGAMMA
1D6FF;MATHEMATICAL ITALIC SMALL DELTA;cEPSILON;cZETA;cETA;cTHETA;cIOTA;cKAPPA;cLAMDA;cMU;cNU;cXI
1D70A;MATHEMATICAL ITALIC SMALL OMICRON;cPI;cRHO;cFINAL SIGMA;cSIGMA;cTAU;cUPSILON;cPHI;cCHI;cPSI
1D714;MATHEMATICAL ITALIC SMALL OMEGA;bPARTIAL DIFFERENTIAL;bEPSILON SYMBOL;bTHETA SYMBOL
1D718;MATHEMATICAL ITALIC KAPPA SYMBOL;bPHI SYMBOL;bRHO SYMBOL;bPI SYMBOL
1D71C;MATHEMATICAL BOLD ITALIC CAPITAL ALPHA;dBETA;dGAMMA;dDELTA;dEPSILON;dZETA;dETA;dTHETA;dIOTA
1D725;MATHEMATICAL BOLD ITALIC CAPITAL KAPPA;dLAMDA;dMU;dNU;dXI;dOMICRON;dPI;dRHO;dTHETA SYMBOL
1D72E;MATHEMATICAL BOLD ITALIC CAPITAL SIGMA;dTAU;dUPSILON;dPHI;dCHI;dPSI;dOMEGA;cNABLA
1D736;MATHEMATICAL BOLD ITALIC SMALL ALPHA;dBETA;dGAMMA;dDELTA;dEPSILON;dZETA;dETA;dTHETA;dIOTA
1D73F;MATHEMATICAL BOLD ITALIC SMALL KAPPA;dLAMDA;dMU;dNU;dXI;dOMICRON;dPI;dRHO;dFINAL SIGMA
1D748;MATHEMATICAL BOLD ITALIC SMALL SIGMA;dTAU;dUPSILON;dPHI;dCHI;dPSI;dOMEGA
1D74F;MATHEMATICAL BOLD ITALIC PARTIAL DIFFERENTIAL;cEPSILON SYMBOL;cTHETA SYMBOL;cKAPPA SYMBOL
1D753;MATHEMATICAL BOLD ITALIC PHI SYMBOL;cRHO SYMBOL;cPI SYMBOL;aSANS-SERIF BOLD CAPITAL ALPHA
1D757;MATHEMATICAL SANS-SERIF BOLD CAPITAL BETA;dGAMMA;dDELTA;dEPSILON;dZETA;dETA;dTHETA;dIOTA
1D75F;MATHEMATICAL SANS-SERIF BOLD CAPITAL KAPPA;dLAMDA;dMU;dNU;dXI;dOMICRON;dPI;dRHO
1D767;MATHEMATICAL SANS-SERIF BOLD CAPITAL THETA SYMBOL;dSIGMA;dTAU;dUPSILON;dPHI;dCHI;dPSI;dOMEGA
1D76F;MATHEMATICAL SANS-SERIF BOLD NABLA;cSMALL ALPHA;dBETA;dGAMMA;dDELTA;dEPSILON;dZETA;dETA
1D777;MATHEMATICAL SANS-SERIF BOLD SMALL THETA;dIOTA;dKAPPA;dLAMDA;dMU;dNU;dXI;dOMICRON;dPI;dRHO
1D781;MATHEMATICAL SANS-SERIF BOLD SMALL FINAL SIGMA;dSIGMA;dTAU;dUPSILON;dPHI;dCHI;dPSI;dOMEGA
1D789;MATHEMATICAL SANS-SERIF BOLD PARTIAL DIFFERENTIAL;cEPSILON SYMBOL;cTHETA SYMBOL
1D78C;MATHEMATICAL SANS-SERIF BOLD KAPPA SYMBOL;cPHI SYMBOL;cRHO SYMBOL;cPI SYMBOL
1D790;MATHEMATICAL SANS-SERIF BOLD ITALIC CAPITAL ALPHA;eBETA;eGAMMA;eDELTA;eEPSILON;eZETA;eETA
1D797;MATHEMATICAL SANS-SERIF BOLD ITALIC CAPITAL THETA;eIOTA;eKAPPA;eLAMDA;eMU;eNU;eXI;eOMICRON
1D79F;MATHEMATICAL SANS-SERIF BOLD ITALIC CAPITAL PI;eRHO;eTHETA SYMBOL;eSIGMA;eTAU;eUPSILON;ePHI
1D7A6;MATHEMATICAL SANS-SERIF BOLD ITALIC CAPITAL CHI;ePSI;eOMEGA;dNABLA;dSMALL ALPHA;eBETA;eGAMMA
1D7AD;MATHEMATICAL SANS-SERIF BOLD ITALIC SMALL DELTA;eEPSILON;eZETA;eETA;eTHETA;eIOTA;eKAPPA
1D7B4;MATHEMATICAL SANS-SERIF BOLD ITALIC SMALL LAMDA;eMU;eNU;eXI;eOMICRON;ePI;eRHO;eFINAL SIGMA
1D7BC;MATHEMATICAL SANS-SERIF BOLD ITALIC SMALL SIGMA;eTAU;eUPSILON;ePHI;eCHI;ePSI;eOMEGA
1D7C3;MATHEMATICAL SANS-SERIF BOLD ITALIC PARTIAL DIFFERENTIAL;dEPSILON SYMBOL;dTHETA SYMBOL
1D7C6;MATHEMATICAL SANS-SERIF BOLD ITALIC KAPPA SYMBOL;dPHI SYMBOL;dRHO SYMBOL;dPI SYMBOL
1D7CA;MATHEMATICAL BOLD CAPITAL DIGAMMA;bSMALL DIGAMMA
1D7CE;MATHEMATICAL BOLD DIGIT ZERO;cONE;cTWO;cTHREE;cFOUR;cFIVE;cSIX;cSEVEN;cEIGHT;cNINE
1D7D8;MATHEMATICAL DOUBLE-STRUCK DIGIT ZERO;cONE;cTWO;cTHREE;cFOUR;cFIVE;cSIX;cSEVEN;cEIGHT;cNINE
1D7E2;MATHEMATICAL SANS-SERIF DIGIT ZERO;cONE;cTWO;cTHREE;cFOUR;cFIVE;cSIX;cSEVEN;cEIGHT;cNINE
1D7EC;MATHEMATICAL SANS-SERIF BOLD DIGIT ZERO;dONE;dTWO;dTHREE;dFOUR;dFIVE;dSIX;dSEVEN;dEIGHT
1D7F5;MATHEMATICAL SANS-SERIF BOLD DIGIT NINE;aMONOSPACE DIGIT ZERO;cONE;cTWO;cTHREE;cFOUR;cFIVE
1D7FC;MATHEMATICAL MONOSPACE DIGIT SIX;cSEVEN;cEIGHT;cNINE;SIGNWRITING HAND-FIST INDEX
1D801;SIGNWRITING HAND-CIRCLE INDEX;aHAND-CUP INDEX;aHAND-OVAL INDEX;aHAND-HINGE INDEX
1D805;SIGNWRITING HAND-ANGLE INDEX;aHAND-FIST INDEX BENT;aHAND-CIRCLE INDEX BENT
1D808;SIGNWRITING HAND-FIST THUMB UNDER INDEX BENT;bINDEX RAISED KNUCKLE;cCUPPED;cHINGED;dLOW
1D80D;SIGNWRITING HAND-CIRCLE INDEX HINGE;aHAND-FIST INDEX MIDDLE;aHAND-CIRCLE INDEX MIDDLE
1D810;SIGNWRITING HAND-FIST INDEX MIDDLE BENT;dRAISED KNUCKLES;dHINGED;cUP MIDDLE HINGED
1D814;SIGNWRITING HAND-FIST INDEX HINGED MIDDLE UP;cMIDDLE CONJOINED;eINDEX BENT;eMIDDLE BENT
1D818;SIGNWRITING HAND-FIST INDEX MIDDLE CONJOINED CUPPED;eHINGED;dCROSSED
1D81B;SIGNWRITING HAND-CIRCLE INDEX MIDDLE CROSSED;aHAND-FIST MIDDLE BENT OVER INDEX
1D81D;SIGNWRITING HAND-FIST INDEX BENT OVER MIDDLE;cMIDDLE THUMB;aHAND-CIRCLE INDEX MIDDLE THUMB
1D820;SIGNWRITING HAND-FIST INDEX MIDDLE STRAIGHT THUMB BENT;dBENT THUMB STRAIGHT;dTHUMB BENT
1D823;SIGNWRITING HAND-FIST INDEX MIDDLE HINGED SPREAD THUMB SIDE;cUP MIDDLE HINGED THUMB SIDE
1D825;SIGNWRITING HAND-FIST INDEX UP MIDDLE HINGED THUMB CONJOINED;cHINGED MIDDLE UP THUMB SIDE
1D827;SIGNWRITING HAND-FIST INDEX MIDDLE UP SPREAD THUMB FORWARD;dTHUMB CUPPED;eCIRCLED;eHOOKED
1D82B;SIGNWRITING HAND-FIST INDEX MIDDLE THUMB HINGED;bTHUMB BETWEEN INDEX MIDDLE STRAIGHT
1D82D;SIGNWRITING HAND-FIST INDEX MIDDLE CONJOINED THUMB SIDE;gCONJOINED;gBENT
1D830;SIGNWRITING HAND-FIST MIDDLE THUMB HOOKED INDEX UP;bINDEX THUMB HOOKED MIDDLE UP
1D832;SIGNWRITING HAND-FIST INDEX MIDDLE CONJOINED HINGED THUMB SIDE;dCROSSED THUMB SIDE
1D834;SIGNWRITING HAND-FIST INDEX MIDDLE CONJOINED THUMB FORWARD;eCUPPED THUMB FORWARD
1D836;SIGNWRITING HAND-FIST MIDDLE THUMB CUPPED INDEX UP;bINDEX THUMB CUPPED MIDDLE UP
1D838;SIGNWRITING HAND-FIST MIDDLE THUMB CIRCLED INDEX UP;fHINGED
1D83A;SIGNWRITING HAND-FIST INDEX THUMB ANGLED OUT MIDDLE UP;eIN MIDDLE UP;dCIRCLED MIDDLE UP
1D83D;SIGNWRITING HAND-FIST INDEX MIDDLE THUMB CONJOINED HINGED;eANGLED OUT;eANGLED
1D840;SIGNWRITING HAND-FIST MIDDLE THUMB ANGLED OUT INDEX UP;gCROSSED;eINDEX UP
1D843;SIGNWRITING HAND-FIST INDEX THUMB HOOKED MIDDLE HINGED;aHAND-FLAT FOUR FINGERS;dBENT;dHINGED
1D847;SIGNWRITING HAND-FLAT FOUR FINGERS CONJOINED;eSPLIT;aHAND-CLAW FOUR FINGERS CONJOINED
1D84A;SIGNWRITING HAND-FIST FOUR FINGERS CONJOINED BENT;aHAND-HINGE FOUR FINGERS CONJOINED
1D84C;SIGNWRITING HAND-FLAT FIVE FINGERS SPREAD;bHEEL FIVE FINGERS SPREAD
1D84E;SIGNWRITING HAND-FLAT FIVE FINGERS SPREAD FOUR BENT;bHEEL FIVE FINGERS SPREAD FOUR BENT
1D850;SIGNWRITING HAND-FLAT FIVE FINGERS SPREAD BENT;bHEEL FIVE FINGERS SPREAD BENT
1D852;SIGNWRITING HAND-FLAT FIVE FINGERS SPREAD THUMB FORWARD;aHAND-CUP FIVE FINGERS SPREAD;eOPEN
1D855;SIGNWRITING HAND-HINGE FIVE FINGERS SPREAD OPEN;aHAND-OVAL FIVE FINGERS SPREAD
1D857;SIGNWRITING HAND-FLAT FIVE FINGERS SPREAD HINGED;fTHUMB SIDE;fNO THUMB;aHAND-FLAT
1D85B;SIGNWRITING HAND-FLAT BETWEEN PALM FACINGS;bHEEL;bTHUMB SIDE;bHEEL THUMB SIDE;bTHUMB BENT
1D860;SIGNWRITING HAND-FLAT THUMB FORWARD;bSPLIT INDEX THUMB SIDE;cCENTRE;dTHUMB SIDE;fBENT
1D865;SIGNWRITING HAND-FLAT SPLIT LITTLE;aHAND-CLAW;bTHUMB SIDE;bNO THUMB;bTHUMB FORWARD
1D86A;SIGNWRITING HAND-HOOK CURLICUE;aHAND-HOOK;aHAND-CUP OPEN;aHAND-CUP;bOPEN THUMB SIDE
1D86F;SIGNWRITING HAND-CUP THUMB SIDE;bOPEN NO THUMB;bNO THUMB;bOPEN THUMB FORWARD;bTHUMB FORWARD
1D874;SIGNWRITING HAND-CURLICUE OPEN;aHAND-CURLICUE;aHAND-CIRCLE;aHAND-OVAL;bTHUMB SIDE;bNO THUMB
1D87A;SIGNWRITING HAND-OVAL THUMB FORWARD;aHAND-HINGE OPEN;cTHUMB FORWARD;aHAND-HINGE;bSMALL
1D87F;SIGNWRITING HAND-HINGE OPEN THUMB SIDE;bTHUMB SIDE;bOPEN NO THUMB;bNO THUMB
1D883;SIGNWRITING HAND-HINGE THUMB SIDE TOUCHING INDEX;cBETWEEN MIDDLE RING;aHAND-ANGLE
1D886;SIGNWRITING HAND-FIST INDEX MIDDLE RING;aHAND-CIRCLE INDEX MIDDLE RING
1D888;SIGNWRITING HAND-HINGE INDEX MIDDLE RING;aHAND-ANGLE INDEX MIDDLE RING;aHAND-HINGE LITTLE
1D88B;SIGNWRITING HAND-FIST INDEX MIDDLE RING BENT;eCONJOINED
1D88D;SIGNWRITING HAND-HINGE INDEX MIDDLE RING CONJOINED;aHAND-FIST LITTLE DOWN;dRIPPLE STRAIGHT
1D890;SIGNWRITING HAND-FIST LITTLE DOWN RIPPLE CURVED;dOTHERS CIRCLED;cUP;bTHUMB UNDER LITTLE UP
1D894;SIGNWRITING HAND-CIRCLE LITTLE UP;aHAND-OVAL LITTLE UP;aHAND-ANGLE LITTLE UP
1D897;SIGNWRITING HAND-FIST LITTLE RAISED KNUCKLE;cBENT;cTOUCHES THUMB;cTHUMB
1D89B;SIGNWRITING HAND-HINGE LITTLE THUMB;aHAND-FIST LITTLE INDEX THUMB
1D89D;SIGNWRITING HAND-HINGE LITTLE INDEX THUMB;aHAND-ANGLE LITTLE INDEX THUMB INDEX THUMB OUT
1D89F;SIGNWRITING HAND-ANGLE LITTLE INDEX THUMB INDEX THUMB;aHAND-FIST LITTLE INDEX
1D8A1;SIGNWRITING HAND-CIRCLE LITTLE INDEX;aHAND-HINGE LITTLE INDEX;aHAND-ANGLE LITTLE INDEX
1D8A4;SIGNWRITING HAND-FIST INDEX MIDDLE LITTLE;aHAND-CIRCLE INDEX MIDDLE LITTLE
1D8A6;SIGNWRITING HAND-HINGE INDEX MIDDLE LITTLE;bRING;aHAND-ANGLE INDEX MIDDLE LITTLE
1D8A9;SIGNWRITING HAND-FIST INDEX MIDDLE CROSS LITTLE;aHAND-CIRCLE INDEX MIDDLE CROSS LITTLE
1D8AB;SIGNWRITING HAND-FIST RING DOWN;aHAND-HINGE RING DOWN INDEX THUMB HOOK MIDDLE
1D8AD;SIGNWRITING HAND-ANGLE RING DOWN MIDDLE THUMB INDEX CROSS;aHAND-FIST RING UP;cRAISED KNUCKLE
1D8B0;SIGNWRITING HAND-FIST RING LITTLE;aHAND-CIRCLE RING LITTLE;aHAND-OVAL RING LITTLE
1D8B3;SIGNWRITING HAND-ANGLE RING LITTLE;aHAND-FIST RING MIDDLE;dCONJOINED;dRAISED KNUCKLES;cINDEX
1D8B8;SIGNWRITING HAND-FIST RING THUMB;aHAND-HOOK RING THUMB;aHAND-FIST INDEX RING LITTLE
1D8BB;SIGNWRITING HAND-CIRCLE INDEX RING LITTLE;aHAND-CURLICUE INDEX RING LITTLE ON
1D8BD;SIGNWRITING HAND-HOOK INDEX RING LITTLE OUT;eIN;eUNDER;aHAND-CUP INDEX RING LITTLE
1D8C1;SIGNWRITING HAND-HINGE INDEX RING LITTLE;aHAND-ANGLE INDEX RING LITTLE OUT;dLITTLE
1D8C4;SIGNWRITING HAND-FIST MIDDLE DOWN;aHAND-HINGE MIDDLE;aHAND-FIST MIDDLE UP
1D8C7;SIGNWRITING HAND-CIRCLE MIDDLE UP;aHAND-FIST MIDDLE RAISED KNUCKLE;cUP THUMB SIDE
1D8CA;SIGNWRITING HAND-HOOK MIDDLE THUMB;aHAND-FIST MIDDLE THUMB LITTLE;cLITTLE;cRING LITTLE
1D8CE;SIGNWRITING HAND-CIRCLE MIDDLE RING LITTLE;aHAND-CURLICUE MIDDLE RING LITTLE ON
1D8D0;SIGNWRITING HAND-CUP MIDDLE RING LITTLE;aHAND-HINGE MIDDLE RING LITTLE
1D8D2;SIGNWRITING HAND-ANGLE MIDDLE RING LITTLE OUT;eIN;dLITTLE
1D8D5;SIGNWRITING HAND-CIRCLE MIDDLE RING LITTLE BENT;aHAND-CLAW MIDDLE RING LITTLE CONJOINED
1D8D7;SIGNWRITING HAND-CLAW MIDDLE RING LITTLE CONJOINED SIDE
1D8D8;SIGNWRITING HAND-HOOK MIDDLE RING LITTLE CONJOINED OUT;fIN;eCONJOINED
1D8DB;SIGNWRITING HAND-HINGE INDEX HINGED;aHAND-FIST INDEX THUMB SIDE;aHAND-HINGE INDEX THUMB SIDE
1D8DE;SIGNWRITING HAND-FIST INDEX THUMB SIDE THUMB DIAGONAL;fCONJOINED;fBENT;eINDEX BENT
1D8E2;SIGNWRITING HAND-FIST INDEX THUMB SIDE BOTH BENT;eINDEX HINGE;dFORWARD INDEX STRAIGHT;fBENT
1D8E6;SIGNWRITING HAND-FIST INDEX THUMB HOOK;dCURLICUE;dCURVE THUMB INSIDE
1D8E9;SIGNWRITING HAND-CLAW INDEX THUMB CURVE THUMB INSIDE
1D8EA;SIGNWRITING HAND-FIST INDEX THUMB CURVE THUMB UNDER;dCIRCLE;aHAND-CUP INDEX THUMB;dOPEN
1D8EE;SIGNWRITING HAND-HINGE INDEX THUMB OPEN;dLARGE;cTHUMB;dSMALL;aHAND-ANGLE INDEX THUMB OUT;dIN
1D8F4;SIGNWRITING HAND-ANGLE INDEX THUMB;aHAND-FIST THUMB;cHEEL;cSIDE DIAGONAL;dCONJOINED;dBENT
1D8FA;SIGNWRITING HAND-FIST THUMB FORWARD;cBETWEEN INDEX MIDDLE;dMIDDLE RING;dRING LITTLE
1D8FE;SIGNWRITING HAND-FIST THUMB UNDER TWO FINGERS;cOVER TWO FINGERS;cUNDER THREE FINGERS
1D901;SIGNWRITING HAND-FIST THUMB UNDER FOUR FINGERS;cOVER FOUR RAISED KNUCKLES;aHAND-FIST;bHEEL
1D905;SIGNWRITING TOUCH SINGLE;bMULTIPLE;bBETWEEN;aGRASP SINGLE;bMULTIPLE;bBETWEEN;aSTRIKE SINGLE
1D90C;SIGNWRITING STRIKE MULTIPLE;bBETWEEN;aBRUSH SINGLE;bMULTIPLE;bBETWEEN;aRUB SINGLE;bMULTIPLE
1D913;SIGNWRITING RUB BETWEEN;aSURFACE SYMBOLS;bBETWEEN;aSQUEEZE LARGE SINGLE;bSMALL SINGLE
1D918;SIGNWRITING SQUEEZE LARGE MULTIPLE;bSMALL MULTIPLE;bSEQUENTIAL;aFLICK LARGE SINGLE
1D91C;SIGNWRITING FLICK SMALL SINGLE;bLARGE MULTIPLE;bSMALL MULTIPLE;bSEQUENTIAL
1D920;SIGNWRITING SQUEEZE FLICK ALTERNATING;aMOVEMENT-HINGE UP DOWN LARGE;dSMALL;cSEQUENTIAL
1D924;SIGNWRITING MOVEMENT-HINGE DOWN SEQUENTIAL;bUP DOWN ALTERNATING LARGE;eSMALL
1D927;SIGNWRITING MOVEMENT-HINGE SIDE TO SIDE SCISSORS;aMOVEMENT-WALLPLANE FINGER CONTACT
1D929;SIGNWRITING MOVEMENT-FLOORPLANE FINGER CONTACT;aMOVEMENT-WALLPLANE SINGLE STRAIGHT SMALL
1D92B;SIGNWRITING MOVEMENT-WALLPLANE SINGLE STRAIGHT MEDIUM;dLARGE;dLARGEST;cWRIST FLEX
1D92F;SIGNWRITING MOVEMENT-WALLPLANE DOUBLE STRAIGHT;cWRIST FLEX;cALTERNATING;dWRIST FLEX;bCROSS
1D934;SIGNWRITING MOVEMENT-WALLPLANE TRIPLE STRAIGHT MOVEMENT;cWRIST FLEX;cALTERNATING;dWRIST FLEX
1D938;SIGNWRITING MOVEMENT-WALLPLANE BEND SMALL;cMEDIUM;cLARGE;bCORNER SMALL;cMEDIUM;cLARGE
1D93E;SIGNWRITING MOVEMENT-WALLPLANE CORNER ROTATION;bCHECK SMALL;cMEDIUM;cLARGE;bBOX SMALL
1D943;SIGNWRITING MOVEMENT-WALLPLANE BOX MEDIUM;cLARGE;bZIGZAG SMALL;cMEDIUM;cLARGE;bPEAKS SMALL
1D949;SIGNWRITING MOVEMENT-WALLPLANE PEAKS MEDIUM;cLARGE
1D94B;SIGNWRITING TRAVEL-WALLPLANE ROTATION-WALLPLANE SINGLE;cDOUBLE;cALTERNATING
1D94E;SIGNWRITING TRAVEL-WALLPLANE ROTATION-FLOORPLANE SINGLE;cDOUBLE;cALTERNATING;bSHAKING
1D952;SIGNWRITING TRAVEL-WALLPLANE ARM SPIRAL SINGLE;dDOUBLE;dTRIPLE;aMOVEMENT-DIAGONAL AWAY SMALL
1D956;SIGNWRITING MOVEMENT-DIAGONAL AWAY MEDIUM;cLARGE;cLARGEST;bTOWARDS SMALL;cMEDIUM;cLARGE
1D95C;SIGNWRITING MOVEMENT-DIAGONAL TOWARDS LARGEST;bBETWEEN AWAY SMALL;dMEDIUM;dLARGE;dLARGEST
1D961;SIGNWRITING MOVEMENT-DIAGONAL BETWEEN TOWARDS SMALL;dMEDIUM;dLARGE;dLARGEST
1D965;SIGNWRITING MOVEMENT-FLOORPLANE SINGLE STRAIGHT SMALL;dMEDIUM;dLARGE;dLARGEST;cWRIST FLEX
1D96A;SIGNWRITING MOVEMENT-FLOORPLANE DOUBLE STRAIGHT;cWRIST FLEX;cALTERNATING;dWRIST FLEX;bCROSS
1D96F;SIGNWRITING MOVEMENT-FLOORPLANE TRIPLE STRAIGHT MOVEMENT;cWRIST FLEX;cALTERNATING MOVEMENT
1D972;SIGNWRITING MOVEMENT-FLOORPLANE TRIPLE ALTERNATING WRIST FLEX;bBEND;bCORNER SMALL;cMEDIUM
1D976;SIGNWRITING MOVEMENT-FLOORPLANE CORNER LARGE;bCHECK;bBOX SMALL;cMEDIUM;cLARGE;bZIGZAG SMALL
1D97C;SIGNWRITING MOVEMENT-FLOORPLANE ZIGZAG MEDIUM;cLARGE;bPEAKS SMALL;cMEDIUM;cLARGE
1D981;SIGNWRITING TRAVEL-FLOORPLANE ROTATION-FLOORPLANE SINGLE;cDOUBLE;cALTERNATING
1D984;SIGNWRITING TRAVEL-FLOORPLANE ROTATION-WALLPLANE SINGLE;cDOUBLE;cALTERNATING;bSHAKING
1D988;SIGNWRITING MOVEMENT-WALLPLANE CURVE QUARTER SMALL;dMEDIUM;dLARGE;dLARGEST
1D98C;SIGNWRITING MOVEMENT-WALLPLANE CURVE HALF-CIRCLE SMALL;dMEDIUM;dLARGE;dLARGEST
1D990;SIGNWRITING MOVEMENT-WALLPLANE CURVE THREE-QUARTER CIRCLE SMALL;eMEDIUM;bHUMP SMALL;cMEDIUM
1D994;SIGNWRITING MOVEMENT-WALLPLANE HUMP LARGE;bLOOP SMALL;cMEDIUM;cLARGE;cSMALL DOUBLE
1D999;SIGNWRITING MOVEMENT-WALLPLANE WAVE CURVE DOUBLE SMALL;eMEDIUM;eLARGE;dTRIPLE SMALL;eMEDIUM
1D99E;SIGNWRITING MOVEMENT-WALLPLANE WAVE CURVE TRIPLE LARGE;bCURVE THEN STRAIGHT
1D9A0;SIGNWRITING MOVEMENT-WALLPLANE CURVED CROSS SMALL;dMEDIUM;aROTATION-WALLPLANE SINGLE;bDOUBLE
1D9A4;SIGNWRITING ROTATION-WALLPLANE ALTERNATE;aMOVEMENT-WALLPLANE SHAKING
1D9A6;SIGNWRITING MOVEMENT-WALLPLANE CURVE HITTING FRONT WALL;bHUMP HITTING FRONT WALL
1D9A8;SIGNWRITING MOVEMENT-WALLPLANE LOOP HITTING FRONT WALL;bWAVE HITTING FRONT WALL
1D9AA;SIGNWRITING ROTATION-WALLPLANE SINGLE HITTING FRONT WALL;bDOUBLE HITTING FRONT WALL
1D9AC;SIGNWRITING ROTATION-WALLPLANE ALTERNATING HITTING FRONT WALL
1D9AD;SIGNWRITING MOVEMENT-WALLPLANE CURVE HITTING CHEST;bHUMP HITTING CHEST;bLOOP HITTING CHEST
1D9B0;SIGNWRITING MOVEMENT-WALLPLANE WAVE HITTING CHEST;aROTATION-WALLPLANE SINGLE HITTING CHEST
1D9B2;SIGNWRITING ROTATION-WALLPLANE DOUBLE HITTING CHEST;bALTERNATING HITTING CHEST
1D9B4;SIGNWRITING MOVEMENT-WALLPLANE WAVE DIAGONAL PATH SMALL;eMEDIUM;eLARGE
1D9B7;SIGNWRITING MOVEMENT-FLOORPLANE CURVE HITTING CEILING SMALL;eLARGE
1D9B9;SIGNWRITING MOVEMENT-FLOORPLANE HUMP HITTING CEILING SMALL DOUBLE;eLARGE DOUBLE
1D9BB;SIGNWRITING MOVEMENT-FLOORPLANE HUMP HITTING CEILING SMALL TRIPLE;eLARGE TRIPLE
1D9BD;SIGNWRITING MOVEMENT-FLOORPLANE LOOP HITTING CEILING SMALL SINGLE;eLARGE SINGLE
1D9BF;SIGNWRITING MOVEMENT-FLOORPLANE LOOP HITTING CEILING SMALL DOUBLE;eLARGE DOUBLE
1D9C1;SIGNWRITING MOVEMENT-FLOORPLANE WAVE HITTING CEILING SMALL;eLARGE
1D9C3;SIGNWRITING ROTATION-FLOORPLANE SINGLE HITTING CEILING;bDOUBLE HITTING CEILING
1D9C5;SIGNWRITING ROTATION-FLOORPLANE ALTERNATING HITTING CEILING
1D9C6;SIGNWRITING MOVEMENT-FLOORPLANE CURVE HITTING FLOOR SMALL;eLARGE
1D9C8;SIGNWRITING MOVEMENT-FLOORPLANE HUMP HITTING FLOOR SMALL DOUBLE;eLARGE DOUBLE
1D9CA;SIGNWRITING MOVEMENT-FLOORPLANE HUMP HITTING FLOOR TRIPLE SMALL TRIPLE;fLARGE TRIPLE
1D9CC;SIGNWRITING MOVEMENT-FLOORPLANE LOOP HITTING FLOOR SMALL SINGLE;eLARGE SINGLE;eSMALL DOUBLE
1D9CF;SIGNWRITING MOVEMENT-FLOORPLANE LOOP HITTING FLOOR LARGE DOUBLE;bWAVE HITTING FLOOR SMALL
1D9D1;SIGNWRITING MOVEMENT-FLOORPLANE WAVE HITTING FLOOR LARGE
1D9D2;SIGNWRITING ROTATION-FLOORPLANE SINGLE HITTING FLOOR;bDOUBLE HITTING FLOOR
1D9D4;SIGNWRITING ROTATION-FLOORPLANE ALTERNATING HITTING FLOOR;aMOVEMENT-FLOORPLANE CURVE SMALL
1D9D6;SIGNWRITING MOVEMENT-FLOORPLANE CURVE MEDIUM;cLARGE;cLARGEST;cCOMBINED;bHUMP SMALL
1D9DB;SIGNWRITING MOVEMENT-FLOORPLANE LOOP SMALL;bWAVE SNAKE;cSMALL;cLARGE
1D9DF;SIGNWRITING ROTATION-FLOORPLANE SINGLE;bDOUBLE;bALTERNATING
1D9E2;SIGNWRITING MOVEMENT-FLOORPLANE SHAKING PARALLEL;aMOVEMENT-WALLPLANE ARM CIRCLE SMALL SINGLE
1D9E4;SIGNWRITING MOVEMENT-WALLPLANE ARM CIRCLE MEDIUM SINGLE;dSMALL DOUBLE;dMEDIUM DOUBLE
1D9E7;SIGNWRITING MOVEMENT-FLOORPLANE ARM CIRCLE HITTING WALL SMALL SINGLE;fMEDIUM SINGLE
1D9E9;SIGNWRITING MOVEMENT-FLOORPLANE ARM CIRCLE HITTING WALL LARGE SINGLE;fSMALL DOUBLE
1D9EB;SIGNWRITING MOVEMENT-FLOORPLANE ARM CIRCLE HITTING WALL MEDIUM DOUBLE;fLARGE DOUBLE
1D9ED;SIGNWRITING MOVEMENT-WALLPLANE WRIST CIRCLE FRONT SINGLE;eDOUBLE
1D9EF;SIGNWRITING MOVEMENT-FLOORPLANE WRIST CIRCLE HITTING WALL SINGLE;fDOUBLE
1D9F1;SIGNWRITING MOVEMENT-WALLPLANE FINGER CIRCLES SINGLE;dDOUBLE
1D9F3;SIGNWRITING MOVEMENT-FLOORPLANE FINGER CIRCLES HITTING WALL SINGLE;fDOUBLE
1D9F5;SIGNWRITING DYNAMIC ARROWHEAD SMALL;cLARGE;bFAST;bSLOW;bTENSE;bRELAXED;bSIMULTANEOUS
1D9FC;SIGNWRITING DYNAMIC SIMULTANEOUS ALTERNATING;bEVERY OTHER TIME;bGRADUAL;aHEAD;bRIM
1DA01;SIGNWRITING HEAD MOVEMENT-WALLPLANE STRAIGHT;cTILT;bMOVEMENT-FLOORPLANE STRAIGHT
1DA04;SIGNWRITING HEAD MOVEMENT-WALLPLANE CURVE;bMOVEMENT-FLOORPLANE CURVE;bMOVEMENT CIRCLE
1DA07;SIGNWRITING FACE DIRECTION POSITION NOSE FORWARD TILTING;eUP OR DOWN;hTILTING
1DA0A;SIGNWRITING EYEBROWS STRAIGHT UP;cNEUTRAL;cDOWN;aDREAMY EYEBROWS NEUTRAL DOWN;cDOWN NEUTRAL
1DA0F;SIGNWRITING DREAMY EYEBROWS UP NEUTRAL;cNEUTRAL UP;aFOREHEAD NEUTRAL;bCONTACT;bWRINKLED
1DA14;SIGNWRITING EYES OPEN;bSQUEEZED;bCLOSED;aEYE BLINK SINGLE;cMULTIPLE;aEYES HALF OPEN
1DA1A;SIGNWRITING EYES WIDE OPEN;bHALF CLOSED;bWIDENING MOVEMENT;aEYE WINK;aEYELASHES UP;bDOWN
1DA20;SIGNWRITING EYELASHES FLUTTERING;aEYEGAZE-WALLPLANE STRAIGHT;cDOUBLE;cALTERNATING
1DA24;SIGNWRITING EYEGAZE-FLOORPLANE STRAIGHT;cDOUBLE;cALTERNATING;aEYEGAZE-WALLPLANE CURVED
1DA28;SIGNWRITING EYEGAZE-FLOORPLANE CURVED;aEYEGAZE-WALLPLANE CIRCLING;aCHEEKS PUFFED;bNEUTRAL
1DA2C;SIGNWRITING CHEEKS SUCKED;aTENSE CHEEKS HIGH;cMIDDLE;cLOW;aEARS;aNOSE NEUTRAL;bCONTACT
1DA33;SIGNWRITING NOSE WRINKLES;bWIGGLES;aAIR BLOWING OUT;bSUCKING IN;bBLOW SMALL ROTATIONS
1DA38;SIGNWRITING AIR SUCK SMALL ROTATIONS;aBREATH INHALE;bEXHALE;aMOUTH CLOSED NEUTRAL;cFORWARD
1DA3D;SIGNWRITING MOUTH CLOSED CONTACT;bSMILE;cWRINKLED;cOPEN;bFROWN;cWRINKLED;cOPEN;bOPEN CIRCLE
1DA45;SIGNWRITING MOUTH OPEN FORWARD;cWRINKLED;cOVAL;dWRINKLED;dYAWN;cRECTANGLE;dWRINKLED;dYAWN
1DA4D;SIGNWRITING MOUTH KISS;cFORWARD;cWRINKLED;bTENSE;cFORWARD;cSUCKED;aLIPS PRESSED TOGETHER
1DA54;SIGNWRITING LIP LOWER OVER UPPER;bUPPER OVER LOWER;aMOUTH CORNERS;bWRINKLES SINGLE;cDOUBLE
1DA59;SIGNWRITING TONGUE STICKING OUT FAR;bLICKING LIPS;bTIP BETWEEN LIPS;cTOUCHING INSIDE MOUTH
1DA5D;SIGNWRITING TONGUE INSIDE MOUTH RELAXED;bMOVES AGAINST CHEEK;bCENTRE STICKING OUT
1DA60;SIGNWRITING TONGUE CENTRE INSIDE MOUTH;aTEETH;bMOVEMENT;bON TONGUE;dMOVEMENT;cLIPS;dMOVEMENT
1DA67;SIGNWRITING TEETH BITE LIPS;aMOVEMENT-WALLPLANE JAW;aMOVEMENT-FLOORPLANE JAW;aNECK;aHAIR
1DA6C;SIGNWRITING EXCITEMENT;aSHOULDER HIP SPINE;cPOSITIONS;aWALLPLANE SHOULDER HIP MOVE
1DA70;SIGNWRITING FLOORPLANE SHOULDER HIP MOVE;aSHOULDER TILTING FROM WAIST
1DA72;SIGNWRITING TORSO-WALLPLANE STRAIGHT STRETCH;bCURVED BEND;aTORSO-FLOORPLANE TWISTING
1DA75;SIGNWRITING UPPER BODY TILTING FROM HIP JOINTS;aLIMB COMBINATION;bLENGTH-1;bLENGTH-2
1DA79;SIGNWRITING LIMB LENGTH-3;bLENGTH-4;bLENGTH-5;bLENGTH-6;bLENGTH-7;aFINGER
1DA7F;SIGNWRITING LOCATION-WALLPLANE SPACE;aLOCATION-FLOORPLANE SPACE;aLOCATION HEIGHT;bWIDTH
1DA83;SIGNWRITING LOCATION DEPTH;bHEAD NECK;bTORSO;bLIMBS DIGITS;aCOMMA;aFULL STOP;aSEMICOLON
1DA8A;SIGNWRITING COLON;aPARENTHESIS
1DA9B;SIGNWRITING FILL MODIFIER-2;bMODIFIER-3;bMODIFIER-4;bMODIFIER-5;bMODIFIER-6
1DAA1;SIGNWRITING ROTATION MODIFIER-2;bMODIFIER-3;bMODIFIER-4;bMODIFIER-5;bMODIFIER-6;bMODIFIER-7
1DAA7;SIGNWRITING ROTATION MODIFIER-8;bMODIFIER-9;bMODIFIER-10;bMODIFIER-11;bMODIFIER-12
1DAAC;SIGNWRITING ROTATION MODIFIER-13;bMODIFIER-14;bMODIFIER-15;bMODIFIER-16
1DF00;LATIN SMALL LETTER FENG DIGRAPH WITH TRILL;cREVERSED SCRIPT G;aLETTER SMALL CAPITAL TURNED G
1DF03;LATIN SMALL LETTER REVERSED K;aLETTER SMALL CAPITAL L WITH BELT
1DF05;LATIN SMALL LETTER LEZH WITH RETROFLEX HOOK;cTURNED Y WITH BELT;cREVERSED ENG
1DF08;LATIN SMALL LETTER TURNED R WITH LONG LEG AND RETROFLEX HOOK;cT WITH HOOK AND RETROFLEX HOOK
1DF0A;LATIN LETTER RETROFLEX CLICK WITH RETROFLEX HOOK;aSMALL LETTER ESH WITH DOUBLE BAR;gAND CURL
1DF0D;LATIN SMALL LETTER TURNED T WITH CURL;aLETTER INVERTED GLOTTAL STOP WITH CURL
1DF0F;LATIN LETTER STRETCHED C WITH CURL;bSMALL CAPITAL TURNED K;aSMALL LETTER L WITH FISHHOOK
1DF12;LATIN SMALL LETTER DEZH DIGRAPH WITH PALATAL HOOK;cL WITH BELT AND PALATAL HOOK
1DF14;LATIN SMALL LETTER ENG WITH PALATAL HOOK;cTURNED R WITH PALATAL HOOK
1DF16;LATIN SMALL LETTER R WITH FISHHOOK AND PALATAL HOOK;cTESH DIGRAPH WITH PALATAL HOOK
1DF18;LATIN SMALL LETTER EZH WITH PALATAL HOOK;cDEZH DIGRAPH WITH RETROFLEX HOOK
1DF1A;LATIN SMALL LETTER I WITH STROKE AND RETROFLEX HOOK;cO WITH RETROFLEX HOOK
1DF1C;LATIN SMALL LETTER TESH DIGRAPH WITH RETROFLEX HOOK;cC WITH RETROFLEX HOOK;cS WITH CURL
1E000;COMBINING GLAGOLITIC LETTER AZU;cBUKY;cVEDE;cGLAGOLI;cDOBRO;cYESTU;cZHIVETE
1E008;COMBINING GLAGOLITIC LETTER ZEMLJA;cIZHE;cINITIAL IZHE;cI;cDJERVI;cKAKO;cLJUDIJE;cMYSLITE
1E010;COMBINING GLAGOLITIC LETTER NASHI;cONU;cPOKOJI;cRITSI;cSLOVO;cTVRIDO;cUKU;cFRITU;cHERU
1E01B;COMBINING GLAGOLITIC LETTER SHTA;cTSI;cCHRIVI;cSHA;cYERU;cYERI;cYATI
1E023;COMBINING GLAGOLITIC LETTER YU;cSMALL YUS
1E026;COMBINING GLAGOLITIC LETTER YO;cIOTATED SMALL YUS;cBIG YUS;cIOTATED BIG YUS;cFITA
1E100;NYIAKENG PUACHUE HMONG LETTER MA;dTSA;dNTA;dTA;dHA;dNA;dXA;dNKA;dCA;dLA;dSA;dZA;dNCA;dNTSA
1E10E;NYIAKENG PUACHUE HMONG LETTER KA;dDA;dNYA;dNRA;dVA;dNTXA;dTXA;dFA;dRA;dQA;dYA;dNQA;dPA;dXYA
1E11C;NYIAKENG PUACHUE HMONG LETTER NPA;dDLA;dNPLA;dHAH;dMLA;dPLA;dGA;dRRA;dA;dAA;dI;dU;dO;dOO;dE
1E12B;NYIAKENG PUACHUE HMONG LETTER EE;dW
1E130;NYIAKENG PUACHUE HMONG TONE-B;cTONE-M;cTONE-J;cTONE-V;cTONE-S;cTONE-G;cTONE-D
1E137;NYIAKENG PUACHUE HMONG SIGN FOR PERSON;eTHING;eLOCATION;eANIMAL;eINVERTEBRATE;dXW XW
1E13D;NYIAKENG PUACHUE HMONG SYLLABLE LENGTHENER
1E140;NYIAKENG PUACHUE HMONG DIGIT ZERO;dONE;dTWO;dTHREE;dFOUR;dFIVE;dSIX;dSEVEN;dEIGHT;dNINE
1E14E;NYIAKENG PUACHUE HMONG LOGOGRAM NYAJ;cCIRCLED CA
1E290;TOTO LETTER PA;bBA;bTA;bDA;bKA;bGA;bMA;bNA;bNGA;bSA;bCHA;bYA;bWA;bJA;bHA;bRA;bLA;bI
1E2A2;TOTO LETTER BREATHY I;bIU;bBREATHY IU;bU;bE;bBREATHY E;bEO;bBREATHY EO;bO;bAE;bBREATHY AE;bA
1E2AE;TOTO SIGN RISING TONE
1E2C0;WANCHO LETTER AA;bA;bBA;bCA;bDA;bGA;bYA;bPHA;bLA;bNA;bPA;bTA;bTHA;bFA;bSA;bSHA;bJA;bZA;bWA
1E2D3;WANCHO LETTER VA;bKA;bO;bAU;bRA;bMA;bKHA;bHA;bE;bI;bNGA;bU;bLLHA;bTSA;bTRA;bONG;bAANG;bANG
1E2E5;WANCHO LETTER ING;bON;bEN;bAAN;bNYA;bUEN;bYIH;aTONE TUP;bTUPNI;bKOI;bKOINI;aDIGIT ZERO;bONE
1E2F2;WANCHO DIGIT TWO;bTHREE;bFOUR;bFIVE;bSIX;bSEVEN;bEIGHT;bNINE
1E2FF;WANCHO NGUN SIGN
1E7E0;ETHIOPIC SYLLABLE HHYA;bHHYU;bHHYI;bHHYAA;bHHYEE;bHHYE;bHHYO
1E7E8;ETHIOPIC SYLLABLE GURAGE HHWA;bHHWI;bHHWEE;bHHWE
1E7ED;ETHIOPIC SYLLABLE GURAGE MWI;cMWEE
1E7F0;ETHIOPIC SYLLABLE GURAGE QWI;cQWEE;cQWE;cBWI;cBWEE;cKWI;cKWEE;cKWE;cGWI;cGWEE;cGWE;cFWI
1E7FC;ETHIOPIC SYLLABLE GURAGE FWEE;cPWI;cPWEE
1E800;MENDE KIKAKUI SYLLABLE M001 KI;cM002 KA;cM003 KU;cM065 KEE;cM095 KE;cM076 KOO;cM048 KO
1E807;MENDE KIKAKUI SYLLABLE M179 KUA;cM004 WI;cM005 WA;cM006 WU;cM126 WEE;cM118 WE;cM114 WOO
1E80E;MENDE KIKAKUI SYLLABLE M045 WO;cM194 WUI;cM143 WEI;cM061 WVI;cM049 WVA;cM139 WVE;cM007 MIN
1E815;MENDE KIKAKUI SYLLABLE M008 MAN;cM009 MUN;cM059 MEN;cM094 MON;cM154 MUAN;cM189 MUEN;cM010 BI
1E81C;MENDE KIKAKUI SYLLABLE M011 BA;cM012 BU;cM150 BEE;cM097 BE;cM103 BOO;cM138 BO;cM013 I
1E823;MENDE KIKAKUI SYLLABLE M014 A;cM015 U;cM163 EE;cM100 E;cM165 OO;cM147 O;cM137 EI;cM131 IN
1E82B;MENDE KIKAKUI SYLLABLE M135 IN;cM195 AN;cM178 EN;cM019 SI;cM020 SA;cM021 SU;cM162 SEE
1E832;MENDE KIKAKUI SYLLABLE M116 SE;cM136 SOO;cM079 SO;cM196 SIA;cM025 LI;cM026 LA;cM027 LU
1E839;MENDE KIKAKUI SYLLABLE M084 LEE;cM073 LE;cM054 LOO;cM153 LO;cM110 LONG LE;cM016 DI;cM017 DA
1E840;MENDE KIKAKUI SYLLABLE M018 DU;cM089 DEE;cM180 DOO;cM181 DO;cM022 TI;cM023 TA;cM024 TU
1E847;MENDE KIKAKUI SYLLABLE M091 TEE;cM055 TE;cM104 TOO;cM069 TO;cM028 JI;cM029 JA;cM030 JU
1E84E;MENDE KIKAKUI SYLLABLE M157 JEE;cM113 JE;cM160 JOO;cM063 JO;cM175 LONG JO;cM031 YI;cM032 YA
1E855;MENDE KIKAKUI SYLLABLE M033 YU;cM109 YEE;cM080 YE;cM141 YOO;cM121 YO;cM034 FI;cM035 FA
1E85C;MENDE KIKAKUI SYLLABLE M036 FU;cM078 FEE;cM075 FE;cM133 FOO;cM088 FO;cM197 FUA;cM101 FAN
1E863;MENDE KIKAKUI SYLLABLE M037 NIN;cM038 NAN;cM039 NUN;cM117 NEN;cM169 NON;cM176 HI;cM041 HA
1E86A;MENDE KIKAKUI SYLLABLE M186 HU;cM040 HEE;cM096 HE;cM042 HOO;cM140 HO;cM083 HEEI;cM128 HOOU
1E871;MENDE KIKAKUI SYLLABLE M053 HIN;cM130 HAN;cM087 HUN;cM052 HEN;cM193 HON;cM046 HUAN
1E877;MENDE KIKAKUI SYLLABLE M090 NGGI;cM043 NGGA;cM082 NGGU;cM115 NGGEE;cM146 NGGE;cM156 NGGOO
1E87D;MENDE KIKAKUI SYLLABLE M120 NGGO;cM159 NGGAA;cM127 NGGUA;cM086 LONG NGGE;cM106 LONG NGGOO
1E882;MENDE KIKAKUI SYLLABLE M183 LONG NGGO;cM155 GI;cM111 GA;cM168 GU;cM190 GEE;cM166 GUEI
1E888;MENDE KIKAKUI SYLLABLE M167 GUAN;cM184 NGEN;cM057 NGON;cM177 NGUAN;cM068 PI;cM099 PA
1E88E;MENDE KIKAKUI SYLLABLE M050 PU;cM081 PEE;cM051 PE;cM102 POO;cM066 PO;cM145 MBI;cM062 MBA
1E895;MENDE KIKAKUI SYLLABLE M122 MBU;cM047 MBEE;cM188 MBEE;cM072 MBE;cM172 MBOO;cM174 MBO
1E89B;MENDE KIKAKUI SYLLABLE M187 MBUU;cM161 LONG MBE;cM105 LONG MBOO;cM142 LONG MBO;cM132 KPI
1E8A0;MENDE KIKAKUI SYLLABLE M092 KPA;cM074 KPU;cM044 KPEE;cM108 KPE;cM112 KPOO;cM158 KPO
1E8A6;MENDE KIKAKUI SYLLABLE M124 GBI;cM056 GBA;cM148 GBU;cM093 GBEE;cM107 GBE;cM071 GBOO
1E8AC;MENDE KIKAKUI SYLLABLE M070 GBO;cM171 RA;cM123 NDI;cM129 NDA;cM125 NDU;cM191 NDEE;cM119 NDE
1E8B3;MENDE KIKAKUI SYLLABLE M067 NDOO;cM064 NDO;cM152 NJA;cM192 NJU;cM149 NJEE;cM134 NJOO
1E8B9;MENDE KIKAKUI SYLLABLE M182 VI;cM185 VA;cM151 VU;cM173 VEE;cM085 VE;cM144 VOO;cM077 VO
1E8C0;MENDE KIKAKUI SYLLABLE M164 NYIN;cM058 NYAN;cM170 NYUN;cM098 NYEN;cM060 NYON
1E8C7;MENDE KIKAKUI DIGIT ONE;cTWO;cTHREE;cFOUR;cFIVE;cSIX;cSEVEN;cEIGHT;cNINE
1E8D0;MENDE KIKAKUI COMBINING NUMBER TEENS;dTENS;dHUNDREDS;dTHOUSANDS;dTEN THOUSANDS
1E8D5;MENDE KIKAKUI COMBINING NUMBER HUNDRED THOUSANDS;dMILLIONS
1E900;ADLAM CAPITAL LETTER ALIF;cDAALI;cLAAM;cMIIM;cBA;cSINNYIIYHE;cPE;cBHE;cRA;cE;cFA;cI;cO;cDHA
1E90E;ADLAM CAPITAL LETTER YHE;cWAW;cNUN;cKAF;cYA;cU;cJIIM;cCHI;cHA;cQAAF;cGA;cNYA;cTU;cNHA;cVA
1E91D;ADLAM CAPITAL LETTER KHA;cGBE;cZAL;cKPO;cSHA;aSMALL LETTER ALIF;cDAALI;cLAAM;cMIIM;cBA
1E927;ADLAM SMALL LETTER SINNYIIYHE;cPE;cBHE;cRA;cE;cFA;cI;cO;cDHA;cYHE;cWAW;cNUN;cKAF;cYA;cU
1E936;ADLAM SMALL LETTER JIIM;cCHI;cHA;cQAAF;cGA;cNYA;cTU;cNHA;cVA;cKHA;cGBE;cZAL;cKPO;cSHA
1E944;ADLAM ALIF LENGTHENER;aVOWEL LENGTHENER;aGEMINATION MARK;aHAMZA;aCONSONANT MODIFIER
1E949;ADLAM GEMINATE CONSONANT MODIFIER;aNUKTA;aNASALIZATION MARK
1E950;ADLAM DIGIT ZERO;bONE;bTWO;bTHREE;bFOUR;bFIVE;bSIX;bSEVEN;bEIGHT;bNINE
1E95E;ADLAM INITIAL EXCLAMATION MARK;bQUESTION MARK
1EC71;INDIC SIYAQ NUMBER ONE;cTWO;cTHREE;cFOUR;cFIVE;cSIX;cSEVEN;cEIGHT;cNINE;cTEN;cTWENTY;cTHIRTY
1EC7D;INDIC SIYAQ NUMBER FORTY;cFIFTY;cSIXTY;cSEVENTY;cEIGHTY;cNINETY;cONE HUNDRED;cTWO HUNDRED
1EC85;INDIC SIYAQ NUMBER THREE HUNDRED;cFOUR HUNDRED;cFIVE HUNDRED;cSIX HUNDRED;cSEVEN HUNDRED
1EC8A;INDIC SIYAQ NUMBER EIGHT HUNDRED;cNINE HUNDRED;cONE THOUSAND;cTWO THOUSAND;cTHREE THOUSAND
1EC8F;INDIC SIYAQ NUMBER FOUR THOUSAND;cFIVE THOUSAND;cSIX THOUSAND;cSEVEN THOUSAND
1EC93;INDIC SIYAQ NUMBER EIGHT THOUSAND;cNINE THOUSAND;cTEN THOUSAND;cTWENTY THOUSAND
1EC97;INDIC SIYAQ NUMBER THIRTY THOUSAND;cFORTY THOUSAND;cFIFTY THOUSAND;cSIXTY THOUSAND
1EC9B;INDIC SIYAQ NUMBER SEVENTY THOUSAND;cEIGHTY THOUSAND;cNINETY THOUSAND;cLAKH;cLAKHAN
1ECA0;INDIC SIYAQ LAKH MARK;bNUMBER KAROR;cKARORAN;cPREFIXED ONE;dTWO;dTHREE;dFOUR;dFIVE;dSIX
1ECA9;INDIC SIYAQ NUMBER PREFIXED SEVEN;dEIGHT;dNINE;bPLACEHOLDER;bFRACTION ONE QUARTER;dHALF
1ECAF;INDIC SIYAQ FRACTION THREE QUARTERS;bRUPEE MARK;bNUMBER ALTERNATE ONE;dTWO;dTEN THOUSAND
1ECB4;INDIC SIYAQ ALTERNATE LAKH MARK
1ED01;OTTOMAN SIYAQ NUMBER ONE;cTWO;cTHREE;cFOUR;cFIVE;cSIX;cSEVEN;cEIGHT;cNINE;cTEN;cTWENTY
1ED0C;OTTOMAN SIYAQ NUMBER THIRTY;cFORTY;cFIFTY;cSIXTY;cSEVENTY;cEIGHTY;cNINETY;cONE HUNDRED
1ED14;OTTOMAN SIYAQ NUMBER TWO HUNDRED;cTHREE HUNDRED;cFOUR HUNDRED;cFIVE HUNDRED;cSIX HUNDRED
1ED19;OTTOMAN SIYAQ NUMBER SEVEN HUNDRED;cEIGHT HUNDRED;cNINE HUNDRED;cONE THOUSAND;cTWO THOUSAND
1ED1E;OTTOMAN SIYAQ NUMBER THREE THOUSAND;cFOUR THOUSAND;cFIVE THOUSAND;cSIX THOUSAND
1ED22;OTTOMAN SIYAQ NUMBER SEVEN THOUSAND;cEIGHT THOUSAND;cNINE THOUSAND;cTEN THOUSAND
1ED26;OTTOMAN SIYAQ NUMBER TWENTY THOUSAND;cTHIRTY THOUSAND;cFORTY THOUSAND;cFIFTY THOUSAND
1ED2A;OTTOMAN SIYAQ NUMBER SIXTY THOUSAND;cSEVENTY THOUSAND;cEIGHTY THOUSAND;cNINETY THOUSAND
1ED2E;OTTOMAN SIYAQ MARRATAN;bALTERNATE NUMBER TWO;dTHREE;dFOUR;dFIVE;dSIX;dSEVEN;dEIGHT;dNINE
1ED37;OTTOMAN SIYAQ ALTERNATE NUMBER TEN;dFOUR HUNDRED;dSIX HUNDRED;dTWO THOUSAND;dTEN THOUSAND
1ED3C;OTTOMAN SIYAQ FRACTION ONE HALF;dSIXTH
1EE00;ARABIC MATHEMATICAL ALEF;bBEH;bJEEM;bDAL
1EE05;ARABIC MATHEMATICAL WAW;bZAIN;bHAH;bTAH;bYEH;bKAF;bLAM;bMEEM;bNOON;bSEEN;bAIN;bFEH;bSAD;bQAF
1EE13;ARABIC MATHEMATICAL REH;bSHEEN;bTEH;bTHEH;bKHAH;bTHAL;bDAD;bZAH;bGHAIN;bDOTLESS BEH;cNOON
1EE1E;ARABIC MATHEMATICAL DOTLESS FEH;cQAF
1EE21;ARABIC MATHEMATICAL INITIAL BEH;cJEEM
1EE24;ARABIC MATHEMATICAL INITIAL HEH
1EE27;ARABIC MATHEMATICAL INITIAL HAH
1EE29;ARABIC MATHEMATICAL INITIAL YEH;cKAF;cLAM;cMEEM;cNOON;cSEEN;cAIN;cFEH;cSAD;cQAF
1EE34;ARABIC MATHEMATICAL INITIAL SHEEN;cTEH;cTHEH;cKHAH
1EE39;ARABIC MATHEMATICAL INITIAL DAD
1EE3B;ARABIC MATHEMATICAL INITIAL GHAIN
1EE42;ARABIC MATHEMATICAL TAILED JEEM
1EE47;ARABIC MATHEMATICAL TAILED HAH
1EE49;ARABIC MATHEMATICAL TAILED YEH
1EE4B;ARABIC MATHEMATICAL TAILED LAM
1EE4D;ARABIC MATHEMATICAL TAILED NOON;cSEEN;cAIN
1EE51;ARABIC MATHEMATICAL TAILED SAD;cQAF
1EE54;ARABIC MATHEMATICAL TAILED SHEEN
1EE57;ARABIC MATHEMATICAL TAILED KHAH
1EE59;ARABIC MATHEMATICAL TAILED DAD
1EE5B;ARABIC MATHEMATICAL TAILED GHAIN
1EE5D;ARABIC MATHEMATICAL TAILED DOTLESS NOON
1EE5F;ARABIC MATHEMATICAL TAILED DOTLESS QAF
1EE61;ARABIC MATHEMATICAL STRETCHED BEH;cJEEM
1EE64;ARABIC MATHEMATICAL STRETCHED HEH
1EE67;ARABIC MATHEMATICAL STRETCHED HAH;cTAH;cYEH;cKAF
1EE6C;ARABIC MATHEMATICAL STRETCHED MEEM;cNOON;cSEEN;cAIN;cFEH;cSAD;cQAF
1EE74;ARABIC MATHEMATICAL STRETCHED SHEEN;cTEH;cTHEH;cKHAH
1EE79;ARABIC MATHEMATICAL STRETCHED DAD;cZAH;cGHAIN;cDOTLESS BEH
1EE7E;ARABIC MATHEMATICAL STRETCHED DOTLESS FEH
1EE80;ARABIC MATHEMATICAL LOOPED ALEF;cBEH;cJEEM;cDAL;cHEH;cWAW;cZAIN;cHAH;cTAH;cYEH
1EE8B;ARABIC MATHEMATICAL LOOPED LAM;cMEEM;cNOON;cSEEN;cAIN;cFEH;cSAD;cQAF;cREH;cSHEEN;cTEH;cTHEH
1EE97;ARABIC MATHEMATICAL LOOPED KHAH;cTHAL;cDAD;cZAH;cGHAIN
1EEA1;ARABIC MATHEMATICAL DOUBLE-STRUCK BEH;cJEEM;cDAL
1EEA5;ARABIC MATHEMATICAL DOUBLE-STRUCK WAW;cZAIN;cHAH;cTAH;cYEH
1EEAB;ARABIC MATHEMATICAL DOUBLE-STRUCK LAM;cMEEM;cNOON;cSEEN;cAIN;cFEH;cSAD;cQAF;cREH;cSHEEN;cTEH
1EEB6;ARABIC MATHEMATICAL DOUBLE-STRUCK THEH;cKHAH;cTHAL;cDAD;cZAH;cGHAIN
1EEF0;ARABIC MATHEMATICAL OPERATOR MEEM WITH HAH WITH TATWEEL;cHAH WITH DAL
1F000;MAHJONG TILE EAST WIND;bSOUTH WIND;bWEST WIND;bNORTH WIND;bRED DRAGON;bGREEN DRAGON
1F006;MAHJONG TILE WHITE DRAGON;bONE OF CHARACTERS;bTWO OF CHARACTERS;bTHREE OF CHARACTERS
1F00A;MAHJONG TILE FOUR OF CHARACTERS;bFIVE OF CHARACTERS;bSIX OF CHARACTERS;bSEVEN OF CHARACTERS
1F00E;MAHJONG TILE EIGHT OF CHARACTERS;bNINE OF CHARACTERS;bONE OF BAMBOOS;bTWO OF BAMBOOS
1F012;MAHJONG TILE THREE OF BAMBOOS;bFOUR OF BAMBOOS;bFIVE OF BAMBOOS;bSIX OF BAMBOOS
1F016;MAHJONG TILE SEVEN OF BAMBOOS;bEIGHT OF BAMBOOS;bNINE OF BAMBOOS;bONE OF CIRCLES
1F01A;MAHJONG TILE TWO OF CIRCLES;bTHREE OF CIRCLES;bFOUR OF CIRCLES;bFIVE OF CIRCLES
1F01E;MAHJONG TILE SIX OF CIRCLES;bSEVEN OF CIRCLES;bEIGHT OF CIRCLES;bNINE OF CIRCLES;bPLUM
1F023;MAHJONG TILE ORCHID;bBAMBOO;bCHRYSANTHEMUM;bSPRING;bSUMMER;bAUTUMN;bWINTER;bJOKER;bBACK
1F030;DOMINO TILE HORIZONTAL BACK;bHORIZONTAL-00-00;bHORIZONTAL-00-01;bHORIZONTAL-00-02
1F034;DOMINO TILE HORIZONTAL-00-03;bHORIZONTAL-00-04;bHORIZONTAL-00-05;bHORIZONTAL-00-06
1F038;DOMINO TILE HORIZONTAL-01-00;bHORIZONTAL-01-01;bHORIZONTAL-01-02;bHORIZONTAL-01-03
1F03C;DOMINO TILE HORIZONTAL-01-04;bHORIZONTAL-01-05;bHORIZONTAL-01-06;bHORIZONTAL-02-00
1F040;DOMINO TILE HORIZONTAL-02-01;bHORIZONTAL-02-02;bHORIZONTAL-02-03;bHORIZONTAL-02-04
1F044;DOMINO TILE HORIZONTAL-02-05;bHORIZONTAL-02-06;bHORIZONTAL-03-00;bHORIZONTAL-03-01
1F048;DOMINO TILE HORIZONTAL-03-02;bHORIZONTAL-03-03;bHORIZONTAL-03-04;bHORIZONTAL-03-05
1F04C;DOMINO TILE HORIZONTAL-03-06;bHORIZONTAL-04-00;bHORIZONTAL-04-01;bHORIZONTAL-04-02
1F050;DOMINO TILE HORIZONTAL-04-03;bHORIZONTAL-04-04;bHORIZONTAL-04-05;bHORIZONTAL-04-06
1F054;DOMINO TILE HORIZONTAL-05-00;bHORIZONTAL-05-01;bHORIZONTAL-05-02;bHORIZONTAL-05-03
1F058;DOMINO TILE HORIZONTAL-05-04;bHORIZONTAL-05-05;bHORIZONTAL-05-06;bHORIZONTAL-06-00
1F05C;DOMINO TILE HORIZONTAL-06-01;bHORIZONTAL-06-02;bHORIZONTAL-06-03;bHORIZONTAL-06-04
1F060;DOMINO TILE HORIZONTAL-06-05;bHORIZONTAL-06-06;bVERTICAL BACK;bVERTICAL-00-00
1F064;DOMINO TILE VERTICAL-00-01;bVERTICAL-00-02;bVERTICAL-00-03;bVERTICAL-00-04;bVERTICAL-00-05
1F069;DOMINO TILE VERTICAL-00-06;bVERTICAL-01-00;bVERTICAL-01-01;bVERTICAL-01-02;bVERTICAL-01-03
1F06E;DOMINO TILE VERTICAL-01-04;bVERTICAL-01-05;bVERTICAL-01-06;bVERTICAL-02-00;bVERTICAL-02-01
1F073;DOMINO TILE VERTICAL-02-02;bVERTICAL-02-03;bVERTICAL-02-04;bVERTICAL-02-05;bVERTICAL-02-06
1F078;DOMINO TILE VERTICAL-03-00;bVERTICAL-03-01;bVERTICAL-03-02;bVERTICAL-03-03;bVERTICAL-03-04
1F07D;DOMINO TILE VERTICAL-03-05;bVERTICAL-03-06;bVERTICAL-04-00;bVERTICAL-04-01;bVERTICAL-04-02
1F082;DOMINO TILE VERTICAL-04-03;bVERTICAL-04-04;bVERTICAL-04-05;bVERTICAL-04-06;bVERTICAL-05-00
1F087;DOMINO TILE VERTICAL-05-01;bVERTICAL-05-02;bVERTICAL-05-03;bVERTICAL-05-04;bVERTICAL-05-05
1F08C;DOMINO TILE VERTICAL-05-06;bVERTICAL-06-00;bVERTICAL-06-01;bVERTICAL-06-02;bVERTICAL-06-03
1F091;DOMINO TILE VERTICAL-06-04;bVERTICAL-06-05;bVERTICAL-06-06
1F0A0;PLAYING CARD BACK;bACE OF SPADES;bTWO OF SPADES;bTHREE OF SPADES;bFOUR OF SPADES
1F0A5;PLAYING CARD FIVE OF SPADES;bSIX OF SPADES;bSEVEN OF SPADES;bEIGHT OF SPADES;bNINE OF SPADES
1F0AA;PLAYING CARD TEN OF SPADES;bJACK OF SPADES;bKNIGHT OF SPADES;bQUEEN OF SPADES
1F0AE;PLAYING CARD KING OF SPADES
1F0B1;PLAYING CARD ACE OF HEARTS;bTWO OF HEARTS;bTHREE OF HEARTS;bFOUR OF HEARTS;bFIVE OF HEARTS
1F0B6;PLAYING CARD SIX OF HEARTS;bSEVEN OF HEARTS;bEIGHT OF HEARTS;bNINE OF HEARTS;bTEN OF HEARTS
1F0BB;PLAYING CARD JACK OF HEARTS;bKNIGHT OF HEARTS;bQUEEN OF HEARTS;bKING OF HEARTS;bRED JOKER
1F0C1;PLAYING CARD ACE OF DIAMONDS;bTWO OF DIAMONDS;bTHREE OF DIAMONDS;bFOUR OF DIAMONDS
1F0C5;PLAYING CARD FIVE OF DIAMONDS;bSIX OF DIAMONDS;bSEVEN OF DIAMONDS;bEIGHT OF DIAMONDS
1F0C9;PLAYING CARD NINE OF DIAMONDS;bTEN OF DIAMONDS;bJACK OF DIAMONDS;bKNIGHT OF DIAMONDS
1F0CD;PLAYING CARD QUEEN OF DIAMONDS;bKING OF DIAMONDS;bBLACK JOKER
1F0D1;PLAYING CARD ACE OF CLUBS;bTWO OF CLUBS;bTHREE OF CLUBS;bFOUR OF CLUBS;bFIVE OF CLUBS
1F0D6;PLAYING CARD SIX OF CLUBS;bSEVEN OF CLUBS;bEIGHT OF CLUBS;bNINE OF CLUBS;bTEN OF CLUBS
1F0DB;PLAYING CARD JACK OF CLUBS;bKNIGHT OF CLUBS;bQUEEN OF CLUBS;bKING OF CLUBS;bWHITE JOKER
1F0E0;PLAYING CARD FOOL;bTRUMP-1;bTRUMP-2;bTRUMP-3;bTRUMP-4;bTRUMP-5;bTRUMP-6;bTRUMP-7;bTRUMP-8
1F0E9;PLAYING CARD TRUMP-9;bTRUMP-10;bTRUMP-11;bTRUMP-12;bTRUMP-13;bTRUMP-14;bTRUMP-15;bTRUMP-16
1F0F1;PLAYING CARD TRUMP-17;bTRUMP-18;bTRUMP-19;bTRUMP-20;bTRUMP-21
1F100;DIGIT ZERO FULL STOP;bCOMMA;aONE COMMA;aTWO COMMA;aTHREE COMMA;aFOUR COMMA;aFIVE COMMA
1F107;DIGIT SIX COMMA;aSEVEN COMMA;aEIGHT COMMA;aNINE COMMA;DINGBAT CIRCLED SANS-SERIF DIGIT ZERO
1F10C;DINGBAT NEGATIVE CIRCLED SANS-SERIF DIGIT ZERO;CIRCLED ZERO WITH SLASH;aANTICLOCKWISE ARROW
1F10F;CIRCLED DOLLAR SIGN WITH OVERLAID BACKSLASH;PARENTHESIZED LATIN CAPITAL LETTER A;dB;dC;dD;dE
1F115;PARENTHESIZED LATIN CAPITAL LETTER F;dG;dH;dI;dJ;dK;dL;dM;dN;dO;dP;dQ;dR;dS;dT;dU;dV;dW;dX
1F128;PARENTHESIZED LATIN CAPITAL LETTER Y;dZ;TORTOISE SHELL BRACKETED LATIN CAPITAL LETTER S
1F12B;CIRCLED ITALIC LATIN CAPITAL LETTER C;eR;aCD;aWZ;COPYLEFT SYMBOL
1F130;SQUARED LATIN CAPITAL LETTER A;dB;dC;dD;dE;dF;dG;dH;dI;dJ;dK;dL;dM;dN;dO;dP;dQ;dR;dS;dT;dU
1F145;SQUARED LATIN CAPITAL LETTER V;dW;dX;dY;dZ;aHV;aMV;aSD;aSS;aPPV;aWC
1F150;NEGATIVE CIRCLED LATIN CAPITAL LETTER A;eB;eC;eD;eE;eF;eG;eH;eI;eJ;eK;eL;eM;eN;eO;eP;eQ;eR
1F162;NEGATIVE CIRCLED LATIN CAPITAL LETTER S;eT;eU;eV;eW;eX;eY;eZ;RAISED MC SIGN;aMD SIGN
1F16C;RAISED MR SIGN;CIRCLED CC;aC WITH OVERLAID BACKSLASH;aHUMAN FIGURE
1F170;NEGATIVE SQUARED LATIN CAPITAL LETTER A;eB;eC;eD;eE;eF;eG;eH;eI;eJ;eK;eL;eM;eN;eO;eP;eQ;eR
1F182;NEGATIVE SQUARED LATIN CAPITAL LETTER S;eT;eU;eV;eW;eX;eY;eZ
1F18A;CROSSED NEGATIVE SQUARED LATIN CAPITAL LETTER P;NEGATIVE SQUARED IC;bPA;bSA;bAB;bWC
1F190;SQUARE DJ;SQUARED CL;aCOOL;aFREE;aID;aNEW;aNG;aOK;aSOS;aUP WITH EXCLAMATION MARK;aVS
1F19B;SQUARED THREE D;aSECOND SCREEN;aTWO K;aFOUR K;aEIGHT K;aFIVE POINT ONE;aSEVEN POINT ONE
1F1A2;SQUARED TWENTY-TWO POINT TWO;aSIXTY P;aONE HUNDRED TWENTY P;aLATIN SMALL LETTER D;aHC;aHDR
1F1A8;SQUARED HI-RES;aLOSSLESS;aSHV;aUHD;aVOD;MASK WORK SYMBOL
1F1E6;REGIONAL INDICATOR SYMBOL LETTER A;dB;dC;dD;dE;dF;dG;dH;dI;dJ;dK;dL;dM;dN;dO;dP;dQ;dR;dS;dT
1F1FA;REGIONAL INDICATOR SYMBOL LETTER U;dV;dW;dX;dY;dZ;SQUARE HIRAGANA HOKA;SQUARED KATAKANA KOKO
1F202;SQUARED KATAKANA SA
1F210;SQUARED CJK UNIFIED IDEOGRAPH-624B;cIDEOGRAPH-5B57;cIDEOGRAPH-53CC;aKATAKANA DE
1F214;SQUARED CJK UNIFIED IDEOGRAPH-4E8C;cIDEOGRAPH-591A;cIDEOGRAPH-89E3;cIDEOGRAPH-5929
1F218;SQUARED CJK UNIFIED IDEOGRAPH-4EA4;cIDEOGRAPH-6620;cIDEOGRAPH-7121;cIDEOGRAPH-6599
1F21C;SQUARED CJK UNIFIED IDEOGRAPH-524D;cIDEOGRAPH-5F8C;cIDEOGRAPH-518D;cIDEOGRAPH-65B0
1F220;SQUARED CJK UNIFIED IDEOGRAPH-521D;cIDEOGRAPH-7D42;cIDEOGRAPH-751F;cIDEOGRAPH-8CA9
1F224;SQUARED CJK UNIFIED IDEOGRAPH-58F0;cIDEOGRAPH-5439;cIDEOGRAPH-6F14;cIDEOGRAPH-6295
1F228;SQUARED CJK UNIFIED IDEOGRAPH-6355;cIDEOGRAPH-4E00;cIDEOGRAPH-4E09;cIDEOGRAPH-904A
1F22C;SQUARED CJK UNIFIED IDEOGRAPH-5DE6;cIDEOGRAPH-4E2D;cIDEOGRAPH-53F3;cIDEOGRAPH-6307
1F230;SQUARED CJK UNIFIED IDEOGRAPH-8D70;cIDEOGRAPH-6253;cIDEOGRAPH-7981;cIDEOGRAPH-7A7A
1F234;SQUARED CJK UNIFIED IDEOGRAPH-5408;cIDEOGRAPH-6E80;cIDEOGRAPH-6709;cIDEOGRAPH-6708
1F238;SQUARED CJK UNIFIED IDEOGRAPH-7533;cIDEOGRAPH-5272;cIDEOGRAPH-55B6;cIDEOGRAPH-914D
1F240;TORTOISE SHELL BRACKETED CJK UNIFIED IDEOGRAPH-672C;eIDEOGRAPH-4E09;eIDEOGRAPH-4E8C
1F243;TORTOISE SHELL BRACKETED CJK UNIFIED IDEOGRAPH-5B89;eIDEOGRAPH-70B9;eIDEOGRAPH-6253
1F246;TORTOISE SHELL BRACKETED CJK UNIFIED IDEOGRAPH-76D7;eIDEOGRAPH-52DD;eIDEOGRAPH-6557
1F250;CIRCLED IDEOGRAPH ADVANTAGE;bACCEPT
1F260;ROUNDED SYMBOL FOR FU;cLU;cSHOU;cXI;cSHUANGXI;cCAI
1F300;CYCLONE;FOGGY;CLOSED UMBRELLA;NIGHT WITH STARS;SUNRISE OVER MOUNTAINS;SUNRISE
1F306;CITYSCAPE AT DUSK;SUNSET OVER BUILDINGS;RAINBOW;BRIDGE AT NIGHT;WATER WAVE;VOLCANO;MILKY WAY
1F30D;EARTH GLOBE EUROPE-AFRICA;bAMERICAS;bASIA-AUSTRALIA;GLOBE WITH MERIDIANS;NEW MOON SYMBOL
1F312;WAXING CRESCENT MOON SYMBOL;FIRST QUARTER MOON SYMBOL;WAXING GIBBOUS MOON SYMBOL
1F315;FULL MOON SYMBOL;WANING GIBBOUS MOON SYMBOL;LAST QUARTER MOON SYMBOL
1F318;WANING CRESCENT MOON SYMBOL;CRESCENT MOON;NEW MOON WITH FACE;FIRST QUARTER MOON WITH FACE
1F31C;LAST QUARTER MOON WITH FACE;FULL MOON WITH FACE;SUN WITH FACE;GLOWING STAR;SHOOTING STAR
1F321;THERMOMETER;BLACK DROPLET;WHITE SUN;bWITH SMALL CLOUD;bBEHIND CLOUD;dWITH RAIN
1F327;CLOUD WITH RAIN;bSNOW;bLIGHTNING;bTORNADO;FOG;WIND BLOWING FACE;HOT DOG;TACO;BURRITO
1F330;CHESTNUT;SEEDLING;EVERGREEN TREE;DECIDUOUS TREE;PALM TREE;CACTUS;HOT PEPPER;TULIP
1F338;CHERRY BLOSSOM;ROSE;HIBISCUS;SUNFLOWER;BLOSSOM;EAR OF MAIZE;bRICE;HERB;FOUR LEAF CLOVER
1F341;MAPLE LEAF;FALLEN LEAF;LEAF FLUTTERING IN WIND;MUSHROOM;TOMATO;AUBERGINE;GRAPES;MELON
1F349;WATERMELON;TANGERINE;LEMON;BANANA;PINEAPPLE;RED APPLE;GREEN APPLE;PEAR;PEACH;CHERRIES
1F353;STRAWBERRY;HAMBURGER;SLICE OF PIZZA;MEAT ON BONE;POULTRY LEG;RICE CRACKER;aBALL;COOKED RICE
1F35B;CURRY AND RICE;STEAMING BOWL;SPAGHETTI;BREAD;FRENCH FRIES;ROASTED SWEET POTATO;DANGO;ODEN
1F363;SUSHI;FRIED SHRIMP;FISH CAKE WITH SWIRL DESIGN;SOFT ICE CREAM;SHAVED ICE;ICE CREAM;DOUGHNUT
1F36A;COOKIE;CHOCOLATE BAR;CANDY;LOLLIPOP;CUSTARD;HONEY POT;SHORTCAKE;BENTO BOX;POT OF FOOD
1F373;COOKING;FORK AND KNIFE;TEACUP WITHOUT HANDLE;SAKE BOTTLE AND CUP;WINE GLASS;COCKTAIL GLASS
1F379;TROPICAL DRINK;BEER MUG;CLINKING BEER MUGS;BABY BOTTLE;FORK AND KNIFE WITH PLATE
1F37E;BOTTLE WITH POPPING CORK;POPCORN;RIBBON;WRAPPED PRESENT;BIRTHDAY CAKE;JACK-O-LANTERN
1F384;CHRISTMAS TREE;FATHER CHRISTMAS;FIREWORKS;FIREWORK SPARKLER;BALLOON;PARTY POPPER
1F38A;CONFETTI BALL;TANABATA TREE;CROSSED FLAGS;PINE DECORATION;JAPANESE DOLLS;CARP STREAMER
1F390;WIND CHIME;MOON VIEWING CEREMONY;SCHOOL SATCHEL;GRADUATION CAP;HEART WITH TIP ON THE LEFT
1F395;BOUQUET OF FLOWERS;MILITARY MEDAL;REMINDER RIBBON;MUSICAL KEYBOARD WITH JACKS
1F399;STUDIO MICROPHONE;LEVEL SLIDER;CONTROL KNOBS;BEAMED ASCENDING MUSICAL NOTES
1F39D;BEAMED DESCENDING MUSICAL NOTES;FILM FRAMES;ADMISSION TICKETS;CAROUSEL HORSE;FERRIS WHEEL
1F3A2;ROLLER COASTER;FISHING POLE AND FISH;MICROPHONE;MOVIE CAMERA;CINEMA;HEADPHONE;ARTIST PALETTE
1F3A9;TOP HAT;CIRCUS TENT;TICKET;CLAPPER BOARD;PERFORMING ARTS;VIDEO GAME;DIRECT HIT;SLOT MACHINE
1F3B1;BILLIARDS;GAME DIE;BOWLING;FLOWER PLAYING CARDS;MUSICAL NOTE;MULTIPLE MUSICAL NOTES
1F3B7;SAXOPHONE;GUITAR;MUSICAL KEYBOARD;TRUMPET;VIOLIN;MUSICAL SCORE;RUNNING SHIRT WITH SASH
1F3BE;TENNIS RACQUET AND BALL;SKI AND SKI BOOT;BASKETBALL AND HOOP;CHEQUERED FLAG;SNOWBOARDER
1F3C3;RUNNER;SURFER;SPORTS MEDAL;TROPHY;HORSE RACING;AMERICAN FOOTBALL;RUGBY FOOTBALL;SWIMMER
1F3CB;WEIGHT LIFTER;GOLFER;RACING MOTORCYCLE;aCAR;CRICKET BAT AND BALL;VOLLEYBALL
1F3D1;FIELD HOCKEY STICK AND BALL;ICE HOCKEY STICK AND PUCK;TABLE TENNIS PADDLE AND BALL
1F3D4;SNOW CAPPED MOUNTAIN;CAMPING;BEACH WITH UMBRELLA;BUILDING CONSTRUCTION;HOUSE BUILDINGS
1F3D9;CITYSCAPE;DERELICT HOUSE BUILDING;CLASSICAL BUILDING;DESERT;aISLAND;NATIONAL PARK;STADIUM
1F3E0;HOUSE BUILDING;aWITH GARDEN;OFFICE BUILDING;JAPANESE POST OFFICE;EUROPEAN POST OFFICE
1F3E5;HOSPITAL;BANK;AUTOMATED TELLER MACHINE;HOTEL;LOVE HOTEL;CONVENIENCE STORE;SCHOOL
1F3EC;DEPARTMENT STORE;FACTORY;IZAKAYA LANTERN;JAPANESE CASTLE;EUROPEAN CASTLE;WHITE PENNANT
1F3F2;BLACK PENNANT;WAVING WHITE FLAG;aBLACK FLAG;ROSETTE;BLACK ROSETTE;LABEL
1F3F8;BADMINTON RACQUET AND SHUTTLECOCK;BOW AND ARROW;AMPHORA;EMOJI MODIFIER FITZPATRICK TYPE-1-2
1F3FC;EMOJI MODIFIER FITZPATRICK TYPE-3;cTYPE-4;cTYPE-5;cTYPE-6;RAT;MOUSE;OX;WATER BUFFALO;COW
1F405;TIGER;LEOPARD;RABBIT;CAT;DRAGON;CROCODILE;WHALE;SNAIL;SNAKE;HORSE;RAM;GOAT;SHEEP;MONKEY
1F413;ROOSTER;CHICKEN;DOG;PIG;BOAR;ELEPHANT;OCTOPUS;SPIRAL SHELL;BUG;ANT;HONEYBEE;LADY BEETLE;FISH
1F420;TROPICAL FISH;BLOWFISH;TURTLE;HATCHING CHICK;BABY CHICK;FRONT-FACING BABY CHICK;BIRD;PENGUIN
1F428;KOALA;POODLE;DROMEDARY CAMEL;BACTRIAN CAMEL;DOLPHIN;MOUSE FACE;COW FACE;TIGER FACE
1F430;RABBIT FACE;CAT FACE;DRAGON FACE;SPOUTING WHALE;HORSE FACE;MONKEY FACE;DOG FACE;PIG FACE
1F438;FROG FACE;HAMSTER FACE;WOLF FACE;BEAR FACE;PANDA FACE;PIG NOSE;PAW PRINTS;CHIPMUNK;EYES;EYE
1F442;EAR;NOSE;MOUTH;TONGUE;WHITE UP POINTING BACKHAND INDEX;aDOWN POINTING BACKHAND INDEX
1F448;WHITE LEFT POINTING BACKHAND INDEX;aRIGHT POINTING BACKHAND INDEX;FISTED HAND SIGN
1F44B;WAVING HAND SIGN;OK HAND SIGN;THUMBS UP SIGN;aDOWN SIGN;CLAPPING HANDS SIGN;OPEN HANDS SIGN
1F451;CROWN;WOMANS HAT;EYEGLASSES;NECKTIE;T-SHIRT;JEANS;DRESS;KIMONO;BIKINI;WOMANS CLOTHES;PURSE
1F45C;HANDBAG;POUCH;MANS SHOE;ATHLETIC SHOE;HIGH-HEELED SHOE;WOMANS SANDAL;aBOOTS;FOOTPRINTS
1F464;BUST IN SILHOUETTE;BUSTS IN SILHOUETTE;BOY;GIRL;MAN;WOMAN;FAMILY;MAN AND WOMAN HOLDING HANDS
1F46C;TWO MEN HOLDING HANDS;aWOMEN HOLDING HANDS;POLICE OFFICER;WOMAN WITH BUNNY EARS
1F470;BRIDE WITH VEIL;PERSON WITH BLOND HAIR;MAN WITH GUA PI MAO;bTURBAN;OLDER MAN;aWOMAN;BABY
1F477;CONSTRUCTION WORKER;PRINCESS;JAPANESE OGRE;aGOBLIN;GHOST;BABY ANGEL;EXTRATERRESTRIAL ALIEN
1F47E;ALIEN MONSTER;IMP;SKULL;INFORMATION DESK PERSON;GUARDSMAN;DANCER;LIPSTICK;NAIL POLISH
1F486;FACE MASSAGE;HAIRCUT;BARBER POLE;SYRINGE;PILL;KISS MARK;LOVE LETTER;RING;GEM STONE;KISS
1F490;BOUQUET;COUPLE WITH HEART;WEDDING;BEATING HEART;BROKEN HEART;TWO HEARTS;SPARKLING HEART
1F497;GROWING HEART;HEART WITH ARROW;BLUE HEART;GREEN HEART;YELLOW HEART;PURPLE HEART
1F49D;HEART WITH RIBBON;REVOLVING HEARTS;HEART DECORATION;DIAMOND SHAPE WITH A DOT INSIDE
1F4A1;ELECTRIC LIGHT BULB;ANGER SYMBOL;BOMB;SLEEPING SYMBOL;COLLISION SYMBOL
1F4A6;SPLASHING SWEAT SYMBOL;DROPLET;DASH SYMBOL;PILE OF POO;FLEXED BICEPS;DIZZY SYMBOL
1F4AC;SPEECH BALLOON;THOUGHT BALLOON;WHITE FLOWER;HUNDRED POINTS SYMBOL;MONEY BAG
1F4B1;CURRENCY EXCHANGE;HEAVY DOLLAR SIGN;CREDIT CARD;BANKNOTE WITH YEN SIGN;bDOLLAR SIGN
1F4B6;BANKNOTE WITH EURO SIGN;bPOUND SIGN;MONEY WITH WINGS;CHART WITH UPWARDS TREND AND YEN SIGN
1F4BA;SEAT;PERSONAL COMPUTER;BRIEFCASE;MINIDISC;FLOPPY DISK;OPTICAL DISC;DVD;FILE FOLDER
1F4C2;OPEN FILE FOLDER;PAGE WITH CURL;aFACING UP;CALENDAR;TEAR-OFF CALENDAR;CARD INDEX
1F4C8;CHART WITH UPWARDS TREND;bDOWNWARDS TREND;BAR CHART;CLIPBOARD;PUSHPIN;ROUND PUSHPIN
1F4CE;PAPERCLIP;STRAIGHT RULER;TRIANGULAR RULER;BOOKMARK TABS;LEDGER;NOTEBOOK
1F4D4;NOTEBOOK WITH DECORATIVE COVER;CLOSED BOOK;OPEN BOOK;GREEN BOOK;BLUE BOOK;ORANGE BOOK;BOOKS
1F4DB;NAME BADGE;SCROLL;MEMO;TELEPHONE RECEIVER;PAGER;FAX MACHINE;SATELLITE ANTENNA
1F4E2;PUBLIC ADDRESS LOUDSPEAKER;CHEERING MEGAPHONE;OUTBOX TRAY;INBOX TRAY;PACKAGE;E-MAIL SYMBOL
1F4E8;INCOMING ENVELOPE;ENVELOPE WITH DOWNWARDS ARROW ABOVE;CLOSED MAILBOX WITH LOWERED FLAG
1F4EB;CLOSED MAILBOX WITH RAISED FLAG;OPEN MAILBOX WITH RAISED FLAG;cLOWERED FLAG;POSTBOX
1F4EF;POSTAL HORN;NEWSPAPER;MOBILE PHONE;bWITH RIGHTWARDS ARROW AT LEFT;VIBRATION MODE
1F4F4;MOBILE PHONE OFF;NO MOBILE PHONES;ANTENNA WITH BARS;CAMERA;aWITH FLASH;VIDEO CAMERA
1F4FA;TELEVISION;RADIO;VIDEOCASSETTE;FILM PROJECTOR;PORTABLE STEREO;PRAYER BEADS
1F500;TWISTED RIGHTWARDS ARROWS;CLOCKWISE RIGHTWARDS AND LEFTWARDS OPEN CIRCLE ARROWS
1F502;CLOCKWISE RIGHTWARDS AND LEFTWARDS OPEN CIRCLE ARROWS WITH CIRCLED ONE OVERLAY
1F503;CLOCKWISE DOWNWARDS AND UPWARDS OPEN CIRCLE ARROWS
1F504;ANTICLOCKWISE DOWNWARDS AND UPWARDS OPEN CIRCLE ARROWS;LOW BRIGHTNESS SYMBOL
1F506;HIGH BRIGHTNESS SYMBOL;SPEAKER WITH CANCELLATION STROKE;SPEAKER;aWITH ONE SOUND WAVE
1F50A;SPEAKER WITH THREE SOUND WAVES;BATTERY;ELECTRIC PLUG;LEFT-POINTING MAGNIFYING GLASS
1F50E;RIGHT-POINTING MAGNIFYING GLASS;LOCK WITH INK PEN;CLOSED LOCK WITH KEY;KEY;LOCK;OPEN LOCK
1F514;BELL;aWITH CANCELLATION STROKE;BOOKMARK;LINK SYMBOL;RADIO BUTTON
1F519;BACK WITH LEFTWARDS ARROW ABOVE;END WITH LEFTWARDS ARROW ABOVE
1F51B;ON WITH EXCLAMATION MARK WITH LEFT RIGHT ARROW ABOVE;SOON WITH RIGHTWARDS ARROW ABOVE
1F51D;TOP WITH UPWARDS ARROW ABOVE;NO ONE UNDER EIGHTEEN SYMBOL;KEYCAP TEN
1F520;INPUT SYMBOL FOR LATIN CAPITAL LETTERS;dSMALL LETTERS;cNUMBERS;cSYMBOLS;cLATIN LETTERS;FIRE
1F526;ELECTRIC TORCH;WRENCH;HAMMER;NUT AND BOLT;HOCHO;PISTOL;MICROSCOPE;TELESCOPE;CRYSTAL BALL
1F52F;SIX POINTED STAR WITH MIDDLE DOT;JAPANESE SYMBOL FOR BEGINNER;TRIDENT EMBLEM
1F532;BLACK SQUARE BUTTON;WHITE SQUARE BUTTON;LARGE RED CIRCLE;aBLUE CIRCLE;aORANGE DIAMOND
1F537;LARGE BLUE DIAMOND;SMALL ORANGE DIAMOND;aBLUE DIAMOND;UP-POINTING RED TRIANGLE
1F53B;DOWN-POINTING RED TRIANGLE;UP-POINTING SMALL RED TRIANGLE;DOWN-POINTING SMALL RED TRIANGLE
1F53E;LOWER RIGHT SHADOWED WHITE CIRCLE;UPPER RIGHT SHADOWED WHITE CIRCLE;CIRCLED CROSS POMMEE
1F541;CROSS POMMEE WITH HALF-CIRCLE BELOW;aPOMMEE;NOTCHED LEFT SEMICIRCLE WITH THREE DOTS
1F544;NOTCHED RIGHT SEMICIRCLE WITH THREE DOTS;SYMBOL FOR MARKS CHAPTER;WHITE LATIN CROSS
1F547;HEAVY LATIN CROSS;CELTIC CROSS;OM SYMBOL;DOVE OF PEACE;KAABA;MOSQUE;SYNAGOGUE
1F54E;MENORAH WITH NINE BRANCHES;BOWL OF HYGIEIA;CLOCK FACE ONE OCLOCK;bTWO OCLOCK;bTHREE OCLOCK
1F553;CLOCK FACE FOUR OCLOCK;bFIVE OCLOCK;bSIX OCLOCK;bSEVEN OCLOCK;bEIGHT OCLOCK;bNINE OCLOCK
1F559;CLOCK FACE TEN OCLOCK;bELEVEN OCLOCK;bTWELVE OCLOCK;bONE-THIRTY;bTWO-THIRTY;bTHREE-THIRTY
1F55F;CLOCK FACE FOUR-THIRTY;bFIVE-THIRTY;bSIX-THIRTY;bSEVEN-THIRTY;bEIGHT-THIRTY;bNINE-THIRTY
1F565;CLOCK FACE TEN-THIRTY;bELEVEN-THIRTY;bTWELVE-THIRTY;RIGHT SPEAKER;bWITH ONE SOUND WAVE
1F56A;RIGHT SPEAKER WITH THREE SOUND WAVES;BULLHORN;aWITH SOUND WAVES;RINGING BELL;BOOK;CANDLE
1F570;MANTELPIECE CLOCK;BLACK SKULL AND CROSSBONES;NO PIRACY;HOLE;MAN IN BUSINESS SUIT LEVITATING
1F575;SLEUTH OR SPY;DARK SUNGLASSES;SPIDER;aWEB;JOYSTICK;MAN DANCING;LEFT HAND TELEPHONE RECEIVER
1F57C;TELEPHONE RECEIVER WITH PAGE;RIGHT HAND TELEPHONE RECEIVER;WHITE TOUCHTONE TELEPHONE
1F57F;BLACK TOUCHTONE TELEPHONE;TELEPHONE ON TOP OF MODEM;CLAMSHELL MOBILE PHONE;BACK OF ENVELOPE
1F583;STAMPED ENVELOPE;ENVELOPE WITH LIGHTNING;FLYING ENVELOPE;PEN OVER STAMPED ENVELOPE
1F587;LINKED PAPERCLIPS;BLACK PUSHPIN;LOWER LEFT PENCIL;bBALLPOINT PEN;bFOUNTAIN PEN;bPAINTBRUSH
1F58D;LOWER LEFT CRAYON;LEFT WRITING HAND;TURNED OK HAND SIGN;RAISED HAND WITH FINGERS SPLAYED
1F591;REVERSED RAISED HAND WITH FINGERS SPLAYED;aTHUMBS UP SIGN;bDOWN SIGN;aVICTORY HAND
1F595;REVERSED HAND WITH MIDDLE FINGER EXTENDED
1F596;RAISED HAND WITH PART BETWEEN MIDDLE AND RING FINGERS;WHITE DOWN POINTING LEFT HAND INDEX
1F598;SIDEWAYS WHITE LEFT POINTING INDEX;bRIGHT POINTING INDEX;aBLACK LEFT POINTING INDEX
1F59B;SIDEWAYS BLACK RIGHT POINTING INDEX;BLACK LEFT POINTING BACKHAND INDEX
1F59D;BLACK RIGHT POINTING BACKHAND INDEX;SIDEWAYS WHITE UP POINTING INDEX;bDOWN POINTING INDEX
1F5A0;SIDEWAYS BLACK UP POINTING INDEX;bDOWN POINTING INDEX;BLACK UP POINTING BACKHAND INDEX
1F5A3;BLACK DOWN POINTING BACKHAND INDEX;aHEART;DESKTOP COMPUTER;KEYBOARD AND MOUSE
1F5A7;THREE NETWORKED COMPUTERS;PRINTER;POCKET CALCULATOR;BLACK HARD SHELL FLOPPY DISK
1F5AB;WHITE HARD SHELL FLOPPY DISK;SOFT SHELL FLOPPY DISK;TAPE CARTRIDGE;WIRED KEYBOARD
1F5AF;ONE BUTTON MOUSE;TWO BUTTON MOUSE;THREE BUTTON MOUSE;TRACKBALL;OLD PERSONAL COMPUTER
1F5B4;HARD DISK;SCREEN;PRINTER ICON;FAX ICON;OPTICAL DISC ICON;DOCUMENT WITH TEXT;cAND PICTURE
1F5BB;DOCUMENT WITH PICTURE;FRAME WITH PICTURE;bTILES;bAN X;BLACK FOLDER;FOLDER;OPEN FOLDER
1F5C2;CARD INDEX DIVIDERS;aFILE BOX;FILE CABINET;EMPTY NOTE;bPAGE;bPAD;NOTE;aPAGE;aPAD
1F5CB;EMPTY DOCUMENT;aPAGE;aPAGES;DOCUMENT;PAGE;PAGES;WASTEBASKET;SPIRAL NOTE PAD;aCALENDAR PAD
1F5D4;DESKTOP WINDOW;MINIMIZE;MAXIMIZE;OVERLAP;CLOCKWISE RIGHT AND LEFT SEMICIRCLE ARROWS
1F5D9;CANCELLATION X;INCREASE FONT SIZE SYMBOL;DECREASE FONT SIZE SYMBOL;COMPRESSION;OLD KEY
1F5DE;ROLLED-UP NEWSPAPER;PAGE WITH CIRCLED TEXT;STOCK CHART;DAGGER KNIFE;LIPS
1F5E3;SPEAKING HEAD IN SILHOUETTE;THREE RAYS ABOVE;bBELOW;bLEFT;bRIGHT;LEFT SPEECH BUBBLE
1F5E9;RIGHT SPEECH BUBBLE;TWO SPEECH BUBBLES;THREE SPEECH BUBBLES;LEFT THOUGHT BUBBLE
1F5ED;RIGHT THOUGHT BUBBLE;LEFT ANGER BUBBLE;RIGHT ANGER BUBBLE;MOOD BUBBLE;LIGHTNING MOOD BUBBLE
1F5F2;LIGHTNING MOOD;BALLOT BOX WITH BALLOT;aSCRIPT X;aBOX WITH SCRIPT X;aBOLD SCRIPT X
1F5F7;BALLOT BOX WITH BOLD SCRIPT X;LIGHT CHECK MARK;BALLOT BOX WITH BOLD CHECK;WORLD MAP
1F5FB;MOUNT FUJI;TOKYO TOWER;STATUE OF LIBERTY;SILHOUETTE OF JAPAN;MOYAI;GRINNING FACE
1F601;GRINNING FACE WITH SMILING EYES;FACE WITH TEARS OF JOY;SMILING FACE WITH OPEN MOUTH
1F604;SMILING FACE WITH OPEN MOUTH AND SMILING EYES;fCOLD SWEAT;fTIGHTLY-CLOSED EYES;cHALO;cHORNS
1F609;WINKING FACE;SMILING FACE WITH SMILING EYES;FACE SAVOURING DELICIOUS FOOD;RELIEVED FACE
1F60D;SMILING FACE WITH HEART-SHAPED EYES;cSUNGLASSES;SMIRKING FACE;NEUTRAL FACE
1F611;EXPRESSIONLESS FACE;UNAMUSED FACE;FACE WITH COLD SWEAT;PENSIVE FACE;CONFUSED FACE
1F616;CONFOUNDED FACE;KISSING FACE;FACE THROWING A KISS;KISSING FACE WITH SMILING EYES
1F61A;KISSING FACE WITH CLOSED EYES;FACE WITH STUCK-OUT TONGUE;dAND WINKING EYE
1F61D;FACE WITH STUCK-OUT TONGUE AND TIGHTLY-CLOSED EYES;DISAPPOINTED FACE;WORRIED FACE;ANGRY FACE
1F621;POUTING FACE;CRYING FACE;PERSEVERING FACE;FACE WITH LOOK OF TRIUMPH
1F625;DISAPPOINTED BUT RELIEVED FACE;FROWNING FACE WITH OPEN MOUTH;ANGUISHED FACE;FEARFUL FACE
1F629;WEARY FACE;SLEEPY FACE;TIRED FACE;GRIMACING FACE;LOUDLY CRYING FACE;FACE WITH OPEN MOUTH
1F62F;HUSHED FACE;FACE WITH OPEN MOUTH AND COLD SWEAT;aSCREAMING IN FEAR;ASTONISHED FACE
1F633;FLUSHED FACE;SLEEPING FACE;DIZZY FACE;FACE WITHOUT MOUTH;aWITH MEDICAL MASK
1F638;GRINNING CAT FACE WITH SMILING EYES;CAT FACE WITH TEARS OF JOY
1F63A;SMILING CAT FACE WITH OPEN MOUTH;dHEART-SHAPED EYES;CAT FACE WITH WRY SMILE
1F63D;KISSING CAT FACE WITH CLOSED EYES;POUTING CAT FACE;CRYING CAT FACE;WEARY CAT FACE
1F641;SLIGHTLY FROWNING FACE;aSMILING FACE;UPSIDE-DOWN FACE;FACE WITH ROLLING EYES
1F645;FACE WITH NO GOOD GESTURE;bOK GESTURE;PERSON BOWING DEEPLY;SEE-NO-EVIL MONKEY
1F649;HEAR-NO-EVIL MONKEY;SPEAK-NO-EVIL MONKEY;HAPPY PERSON RAISING ONE HAND
1F64C;PERSON RAISING BOTH HANDS IN CELEBRATION;aFROWNING;aWITH POUTING FACE;bFOLDED HANDS
1F650;NORTH WEST POINTING LEAF;SOUTH WEST POINTING LEAF;NORTH EAST POINTING LEAF
1F653;SOUTH EAST POINTING LEAF;TURNED NORTH WEST POINTING LEAF;aSOUTH WEST POINTING LEAF
1F656;TURNED NORTH EAST POINTING LEAF;aSOUTH EAST POINTING LEAF;NORTH WEST POINTING VINE LEAF
1F659;SOUTH WEST POINTING VINE LEAF;NORTH EAST POINTING VINE LEAF;SOUTH EAST POINTING VINE LEAF
1F65C;HEAVY NORTH WEST POINTING VINE LEAF;aSOUTH WEST POINTING VINE LEAF
1F65E;HEAVY NORTH EAST POINTING VINE LEAF;aSOUTH EAST POINTING VINE LEAF;NORTH WEST POINTING BUD
1F661;SOUTH WEST POINTING BUD;NORTH EAST POINTING BUD;SOUTH EAST POINTING BUD
1F664;HEAVY NORTH WEST POINTING BUD;aSOUTH WEST POINTING BUD;aNORTH EAST POINTING BUD
1F667;HEAVY SOUTH EAST POINTING BUD;HOLLOW QUILT SQUARE ORNAMENT;dIN BLACK SQUARE
1F66A;SOLID QUILT SQUARE ORNAMENT;dIN BLACK SQUARE;LEFTWARDS ROCKET;UPWARDS ROCKET
1F66E;RIGHTWARDS ROCKET;DOWNWARDS ROCKET;SCRIPT LIGATURE ET ORNAMENT
1F671;HEAVY SCRIPT LIGATURE ET ORNAMENT;LIGATURE OPEN ET ORNAMENT;HEAVY LIGATURE OPEN ET ORNAMENT
1F674;HEAVY AMPERSAND ORNAMENT;SWASH AMPERSAND ORNAMENT
1F676;SANS-SERIF HEAVY DOUBLE TURNED COMMA QUOTATION MARK ORNAMENT;cCOMMA QUOTATION MARK ORNAMENT
1F678;SANS-SERIF HEAVY LOW DOUBLE COMMA QUOTATION MARK ORNAMENT;HEAVY INTERROBANG ORNAMENT
1F67A;SANS-SERIF INTERROBANG ORNAMENT;HEAVY SANS-SERIF INTERROBANG ORNAMENT;VERY HEAVY SOLIDUS
1F67D;VERY HEAVY REVERSE SOLIDUS;CHECKER BOARD;REVERSE CHECKER BOARD;ROCKET;HELICOPTER
1F682;STEAM LOCOMOTIVE;RAILWAY CAR;HIGH-SPEED TRAIN;bWITH BULLET NOSE;TRAIN;METRO;LIGHT RAIL
1F689;STATION;TRAM;aCAR;BUS;ONCOMING BUS;TROLLEYBUS;BUS STOP;MINIBUS;AMBULANCE;FIRE ENGINE
1F693;POLICE CAR;ONCOMING POLICE CAR;TAXI;ONCOMING TAXI;AUTOMOBILE;ONCOMING AUTOMOBILE
1F699;RECREATIONAL VEHICLE;DELIVERY TRUCK;ARTICULATED LORRY;TRACTOR;MONORAIL;MOUNTAIN RAILWAY
1F69F;SUSPENSION RAILWAY;MOUNTAIN CABLEWAY;AERIAL TRAMWAY;SHIP;ROWBOAT;SPEEDBOAT
1F6A5;HORIZONTAL TRAFFIC LIGHT;VERTICAL TRAFFIC LIGHT;CONSTRUCTION SIGN
1F6A8;POLICE CARS REVOLVING LIGHT;TRIANGULAR FLAG ON POST;DOOR;NO ENTRY SIGN;SMOKING SYMBOL
1F6AD;NO SMOKING SYMBOL;PUT LITTER IN ITS PLACE SYMBOL;DO NOT LITTER SYMBOL;POTABLE WATER SYMBOL
1F6B1;NON-POTABLE WATER SYMBOL;BICYCLE;NO BICYCLES;BICYCLIST;MOUNTAIN BICYCLIST;PEDESTRIAN
1F6B7;NO PEDESTRIANS;CHILDREN CROSSING;MENS SYMBOL;WOMENS SYMBOL;RESTROOM;BABY SYMBOL;TOILET
1F6BE;WATER CLOSET;SHOWER;BATH;BATHTUB;PASSPORT CONTROL;CUSTOMS;BAGGAGE CLAIM;LEFT LUGGAGE
1F6C6;TRIANGLE WITH ROUNDED CORNERS;PROHIBITED SIGN;CIRCLED INFORMATION SOURCE;BOYS SYMBOL
1F6CA;GIRLS SYMBOL;COUCH AND LAMP;SLEEPING ACCOMMODATION;SHOPPING BAGS;BELLHOP BELL;BED
1F6D0;PLACE OF WORSHIP;OCTAGONAL SIGN;SHOPPING TROLLEY;STUPA;PAGODA;HINDU TEMPLE;HUT;ELEVATOR
1F6DD;PLAYGROUND SLIDE;WHEEL;RING BUOY;HAMMER AND WRENCH;SHIELD;OIL DRUM;MOTORWAY;RAILWAY TRACK
1F6E5;MOTOR BOAT;UP-POINTING MILITARY AIRPLANE;aAIRPLANE;aSMALL AIRPLANE;SMALL AIRPLANE
1F6EA;NORTHEAST-POINTING AIRPLANE;AIRPLANE DEPARTURE;aARRIVING
1F6F0;SATELLITE;ONCOMING FIRE ENGINE;DIESEL LOCOMOTIVE;PASSENGER SHIP;SCOOTER;MOTOR SCOOTER;CANOE
1F6F7;SLED;FLYING SAUCER;SKATEBOARD;AUTO RICKSHAW;PICKUP TRUCK;ROLLER SKATE
1F700;ALCHEMICAL SYMBOL FOR QUINTESSENCE;cAIR;cFIRE;cEARTH;cWATER;cAQUAFORTIS;cAQUA REGIA;dREGIA-2
1F708;ALCHEMICAL SYMBOL FOR AQUA VITAE;dVITAE-2;cVINEGAR;cVINEGAR-2;cVINEGAR-3;cSULFUR
1F70E;ALCHEMICAL SYMBOL FOR PHILOSOPHERS SULFUR;cBLACK SULFUR;cMERCURY SUBLIMATE;dSUBLIMATE-2
1F712;ALCHEMICAL SYMBOL FOR MERCURY SUBLIMATE-3;cCINNABAR;cSALT;cNITRE;cVITRIOL;cVITRIOL-2
1F718;ALCHEMICAL SYMBOL FOR ROCK SALT;dSALT-2;cGOLD;cSILVER;cIRON ORE;dORE-2;cCROCUS OF IRON
1F71F;ALCHEMICAL SYMBOL FOR REGULUS OF IRON;cCOPPER ORE;cIRON-COPPER ORE;cSUBLIMATE OF COPPER
1F723;ALCHEMICAL SYMBOL FOR CROCUS OF COPPER;eCOPPER-2;cCOPPER ANTIMONIATE
1F726;ALCHEMICAL SYMBOL FOR SALT OF COPPER ANTIMONIATE;cSUBLIMATE OF SALT OF COPPER;cVERDIGRIS
1F729;ALCHEMICAL SYMBOL FOR TIN ORE;cLEAD ORE;cANTIMONY ORE;cSUBLIMATE OF ANTIMONY
1F72D;ALCHEMICAL SYMBOL FOR SALT OF ANTIMONY;cSUBLIMATE OF SALT OF ANTIMONY;cVINEGAR OF ANTIMONY
1F730;ALCHEMICAL SYMBOL FOR REGULUS OF ANTIMONY;eANTIMONY-2;cREGULUS;cREGULUS-2;cREGULUS-3
1F735;ALCHEMICAL SYMBOL FOR REGULUS-4;cALKALI;cALKALI-2;cMARCASITE;cSAL-AMMONIAC;cARSENIC;cREALGAR
1F73C;ALCHEMICAL SYMBOL FOR REALGAR-2;cAURIPIGMENT;cBISMUTH ORE;cTARTAR;cTARTAR-2;cQUICK LIME
1F742;ALCHEMICAL SYMBOL FOR BORAX;cBORAX-2;cBORAX-3;cALUM;cOIL;cSPIRIT;cTINCTURE;cGUM;cWAX;cPOWDER
1F74C;ALCHEMICAL SYMBOL FOR CALX;cTUTTY;cCAPUT MORTUUM;cSCEPTER OF JOVE;cCADUCEUS;cTRIDENT
1F752;ALCHEMICAL SYMBOL FOR STARRED TRIDENT;cLODESTONE;cSOAP;cURINE;cHORSE DUNG;cASHES;cPOT ASHES
1F759;ALCHEMICAL SYMBOL FOR BRICK;cPOWDERED BRICK;cAMALGAM;cSTRATUM SUPER STRATUM;eSTRATUM-2
1F75E;ALCHEMICAL SYMBOL FOR SUBLIMATION;cPRECIPITATE;cDISTILL;cDISSOLVE;cDISSOLVE-2;cPURIFY
1F764;ALCHEMICAL SYMBOL FOR PUTREFACTION;cCRUCIBLE;cCRUCIBLE-2;cCRUCIBLE-3;cCRUCIBLE-4;cCRUCIBLE-5
1F76A;ALCHEMICAL SYMBOL FOR ALEMBIC;cBATH OF MARY;eVAPOURS;cRETORT;cHOUR;cNIGHT;cDAY-NIGHT;cMONTH
1F772;ALCHEMICAL SYMBOL FOR HALF DRAM;dOUNCE
1F780;BLACK LEFT-POINTING ISOSCELES RIGHT TRIANGLE;aUP-POINTING ISOSCELES RIGHT TRIANGLE
1F782;BLACK RIGHT-POINTING ISOSCELES RIGHT TRIANGLE;aDOWN-POINTING ISOSCELES RIGHT TRIANGLE
1F784;BLACK SLIGHTLY SMALL CIRCLE;MEDIUM BOLD WHITE CIRCLE;BOLD WHITE CIRCLE;HEAVY WHITE CIRCLE
1F788;VERY HEAVY WHITE CIRCLE;EXTREMELY HEAVY WHITE CIRCLE
1F78A;WHITE CIRCLE CONTAINING BLACK SMALL CIRCLE;ROUND TARGET;BLACK TINY SQUARE
1F78D;BLACK SLIGHTLY SMALL SQUARE;LIGHT WHITE SQUARE;MEDIUM WHITE SQUARE;BOLD WHITE SQUARE
1F791;HEAVY WHITE SQUARE;VERY HEAVY WHITE SQUARE;EXTREMELY HEAVY WHITE SQUARE
1F794;WHITE SQUARE CONTAINING BLACK VERY SMALL SQUARE;dMEDIUM SQUARE;SQUARE TARGET
1F797;BLACK TINY DIAMOND;aVERY SMALL DIAMOND;aMEDIUM SMALL DIAMOND
1F79A;WHITE DIAMOND CONTAINING BLACK VERY SMALL DIAMOND;dMEDIUM DIAMOND;DIAMOND TARGET
1F79D;BLACK TINY LOZENGE;aVERY SMALL LOZENGE;aMEDIUM SMALL LOZENGE
1F7A0;WHITE LOZENGE CONTAINING BLACK SMALL LOZENGE;THIN GREEK CROSS;LIGHT GREEK CROSS
1F7A3;MEDIUM GREEK CROSS;BOLD GREEK CROSS;VERY BOLD GREEK CROSS;aHEAVY GREEK CROSS
1F7A7;EXTREMELY HEAVY GREEK CROSS;THIN SALTIRE;LIGHT SALTIRE;MEDIUM SALTIRE;BOLD SALTIRE
1F7AC;HEAVY SALTIRE;VERY HEAVY SALTIRE;EXTREMELY HEAVY SALTIRE;LIGHT FIVE SPOKED ASTERISK
1F7B0;MEDIUM FIVE SPOKED ASTERISK;BOLD FIVE SPOKED ASTERISK;HEAVY FIVE SPOKED ASTERISK
1F7B3;VERY HEAVY FIVE SPOKED ASTERISK;EXTREMELY HEAVY FIVE SPOKED ASTERISK
1F7B5;LIGHT SIX SPOKED ASTERISK;MEDIUM SIX SPOKED ASTERISK;BOLD SIX SPOKED ASTERISK
1F7B8;HEAVY SIX SPOKED ASTERISK;VERY HEAVY SIX SPOKED ASTERISK;EXTREMELY HEAVY SIX SPOKED ASTERISK
1F7BB;LIGHT EIGHT SPOKED ASTERISK;MEDIUM EIGHT SPOKED ASTERISK;BOLD EIGHT SPOKED ASTERISK
1F7BE;HEAVY EIGHT SPOKED ASTERISK;VERY HEAVY EIGHT SPOKED ASTERISK;LIGHT THREE POINTED BLACK STAR
1F7C1;MEDIUM THREE POINTED BLACK STAR;THREE POINTED BLACK STAR;MEDIUM THREE POINTED PINWHEEL STAR
1F7C4;LIGHT FOUR POINTED BLACK STAR;MEDIUM FOUR POINTED BLACK STAR;FOUR POINTED BLACK STAR
1F7C7;MEDIUM FOUR POINTED PINWHEEL STAR;REVERSE LIGHT FOUR POINTED PINWHEEL STAR
1F7C9;LIGHT FIVE POINTED BLACK STAR;HEAVY FIVE POINTED BLACK STAR;MEDIUM SIX POINTED BLACK STAR
1F7CC;HEAVY SIX POINTED BLACK STAR;SIX POINTED PINWHEEL STAR;MEDIUM EIGHT POINTED BLACK STAR
1F7CF;HEAVY EIGHT POINTED BLACK STAR;VERY HEAVY EIGHT POINTED BLACK STAR
1F7D1;HEAVY EIGHT POINTED PINWHEEL STAR;LIGHT TWELVE POINTED BLACK STAR
1F7D3;HEAVY TWELVE POINTED BLACK STAR;cPINWHEEL STAR;CIRCLED TRIANGLE;NEGATIVE CIRCLED TRIANGLE
1F7D7;CIRCLED SQUARE;NEGATIVE CIRCLED SQUARE
1F7E0;LARGE ORANGE CIRCLE;aYELLOW CIRCLE;aGREEN CIRCLE;aPURPLE CIRCLE;aBROWN CIRCLE;aRED SQUARE
1F7E6;LARGE BLUE SQUARE;aORANGE SQUARE;aYELLOW SQUARE;aGREEN SQUARE;aPURPLE SQUARE;aBROWN SQUARE
1F7F0;HEAVY EQUALS SIGN
1F800;LEFTWARDS ARROW WITH SMALL TRIANGLE ARROWHEAD;UPWARDS ARROW WITH SMALL TRIANGLE ARROWHEAD
1F802;RIGHTWARDS ARROW WITH SMALL TRIANGLE ARROWHEAD;DOWNWARDS ARROW WITH SMALL TRIANGLE ARROWHEAD
1F804;LEFTWARDS ARROW WITH MEDIUM TRIANGLE ARROWHEAD;UPWARDS ARROW WITH MEDIUM TRIANGLE ARROWHEAD
1F806;RIGHTWARDS ARROW WITH MEDIUM TRIANGLE ARROWHEAD
1F807;DOWNWARDS ARROW WITH MEDIUM TRIANGLE ARROWHEAD;LEFTWARDS ARROW WITH LARGE TRIANGLE ARROWHEAD
1F809;UPWARDS ARROW WITH LARGE TRIANGLE ARROWHEAD;RIGHTWARDS ARROW WITH LARGE TRIANGLE ARROWHEAD
1F80B;DOWNWARDS ARROW WITH LARGE TRIANGLE ARROWHEAD
1F810;LEFTWARDS ARROW WITH SMALL EQUILATERAL ARROWHEAD
1F811;UPWARDS ARROW WITH SMALL EQUILATERAL ARROWHEAD
1F812;RIGHTWARDS ARROW WITH SMALL EQUILATERAL ARROWHEAD
1F813;DOWNWARDS ARROW WITH SMALL EQUILATERAL ARROWHEAD;LEFTWARDS ARROW WITH EQUILATERAL ARROWHEAD
1F815;UPWARDS ARROW WITH EQUILATERAL ARROWHEAD;RIGHTWARDS ARROW WITH EQUILATERAL ARROWHEAD
1F817;DOWNWARDS ARROW WITH EQUILATERAL ARROWHEAD;HEAVY LEFTWARDS ARROW WITH EQUILATERAL ARROWHEAD
1F819;HEAVY UPWARDS ARROW WITH EQUILATERAL ARROWHEAD;aRIGHTWARDS ARROW WITH EQUILATERAL ARROWHEAD
1F81B;HEAVY DOWNWARDS ARROW WITH EQUILATERAL ARROWHEAD
1F81C;HEAVY LEFTWARDS ARROW WITH LARGE EQUILATERAL ARROWHEAD
1F81D;HEAVY UPWARDS ARROW WITH LARGE EQUILATERAL ARROWHEAD
1F81E;HEAVY RIGHTWARDS ARROW WITH LARGE EQUILATERAL ARROWHEAD
1F81F;HEAVY DOWNWARDS ARROW WITH LARGE EQUILATERAL ARROWHEAD
1F820;LEFTWARDS TRIANGLE-HEADED ARROW WITH NARROW SHAFT
1F821;UPWARDS TRIANGLE-HEADED ARROW WITH NARROW SHAFT
1F822;RIGHTWARDS TRIANGLE-HEADED ARROW WITH NARROW SHAFT
1F823;DOWNWARDS TRIANGLE-HEADED ARROW WITH NARROW SHAFT
1F824;LEFTWARDS TRIANGLE-HEADED ARROW WITH MEDIUM SHAFT
1F825;UPWARDS TRIANGLE-HEADED ARROW WITH MEDIUM SHAFT
1F826;RIGHTWARDS TRIANGLE-HEADED ARROW WITH MEDIUM SHAFT
1F827;DOWNWARDS TRIANGLE-HEADED ARROW WITH MEDIUM SHAFT
1F828;LEFTWARDS TRIANGLE-HEADED ARROW WITH BOLD SHAFT
1F829;UPWARDS TRIANGLE-HEADED ARROW WITH BOLD SHAFT
1F82A;RIGHTWARDS TRIANGLE-HEADED ARROW WITH BOLD SHAFT
1F82B;DOWNWARDS TRIANGLE-HEADED ARROW WITH BOLD SHAFT
1F82C;LEFTWARDS TRIANGLE-HEADED ARROW WITH HEAVY SHAFT
1F82D;UPWARDS TRIANGLE-HEADED ARROW WITH HEAVY SHAFT
1F82E;RIGHTWARDS TRIANGLE-HEADED ARROW WITH HEAVY SHAFT
1F82F;DOWNWARDS TRIANGLE-HEADED ARROW WITH HEAVY SHAFT
1F830;LEFTWARDS TRIANGLE-HEADED ARROW WITH VERY HEAVY SHAFT
1F831;UPWARDS TRIANGLE-HEADED ARROW WITH VERY HEAVY SHAFT
1F832;RIGHTWARDS TRIANGLE-HEADED ARROW WITH VERY HEAVY SHAFT
1F833;DOWNWARDS TRIANGLE-HEADED ARROW WITH VERY HEAVY SHAFT;LEFTWARDS FINGER-POST ARROW
1F835;UPWARDS FINGER-POST ARROW;RIGHTWARDS FINGER-POST ARROW;DOWNWARDS FINGER-POST ARROW
1F838;LEFTWARDS SQUARED ARROW;UPWARDS SQUARED ARROW;RIGHTWARDS SQUARED ARROW
1F83B;DOWNWARDS SQUARED ARROW;LEFTWARDS COMPRESSED ARROW;UPWARDS COMPRESSED ARROW
1F83E;RIGHTWARDS COMPRESSED ARROW;DOWNWARDS COMPRESSED ARROW;LEFTWARDS HEAVY COMPRESSED ARROW
1F841;UPWARDS HEAVY COMPRESSED ARROW;RIGHTWARDS HEAVY COMPRESSED ARROW
1F843;DOWNWARDS HEAVY COMPRESSED ARROW;LEFTWARDS HEAVY ARROW;UPWARDS HEAVY ARROW
1F846;RIGHTWARDS HEAVY ARROW;DOWNWARDS HEAVY ARROW
1F850;LEFTWARDS SANS-SERIF ARROW;UPWARDS SANS-SERIF ARROW;RIGHTWARDS SANS-SERIF ARROW
1F853;DOWNWARDS SANS-SERIF ARROW;NORTH WEST SANS-SERIF ARROW;aEAST SANS-SERIF ARROW
1F856;SOUTH EAST SANS-SERIF ARROW;aWEST SANS-SERIF ARROW;LEFT RIGHT SANS-SERIF ARROW
1F859;UP DOWN SANS-SERIF ARROW
1F860;WIDE-HEADED LEFTWARDS LIGHT BARB ARROW;aUPWARDS LIGHT BARB ARROW
1F862;WIDE-HEADED RIGHTWARDS LIGHT BARB ARROW;aDOWNWARDS LIGHT BARB ARROW
1F864;WIDE-HEADED NORTH WEST LIGHT BARB ARROW;bEAST LIGHT BARB ARROW;aSOUTH EAST LIGHT BARB ARROW
1F867;WIDE-HEADED SOUTH WEST LIGHT BARB ARROW;aLEFTWARDS BARB ARROW;aUPWARDS BARB ARROW
1F86A;WIDE-HEADED RIGHTWARDS BARB ARROW;aDOWNWARDS BARB ARROW;aNORTH WEST BARB ARROW
1F86D;WIDE-HEADED NORTH EAST BARB ARROW;aSOUTH EAST BARB ARROW;bWEST BARB ARROW
1F870;WIDE-HEADED LEFTWARDS MEDIUM BARB ARROW;aUPWARDS MEDIUM BARB ARROW
1F872;WIDE-HEADED RIGHTWARDS MEDIUM BARB ARROW;aDOWNWARDS MEDIUM BARB ARROW
1F874;WIDE-HEADED NORTH WEST MEDIUM BARB ARROW;bEAST MEDIUM BARB ARROW
1F876;WIDE-HEADED SOUTH EAST MEDIUM BARB ARROW;bWEST MEDIUM BARB ARROW;aLEFTWARDS HEAVY BARB ARROW
1F879;WIDE-HEADED UPWARDS HEAVY BARB ARROW;aRIGHTWARDS HEAVY BARB ARROW
1F87B;WIDE-HEADED DOWNWARDS HEAVY BARB ARROW;aNORTH WEST HEAVY BARB ARROW;bEAST HEAVY BARB ARROW
1F87E;WIDE-HEADED SOUTH EAST HEAVY BARB ARROW;bWEST HEAVY BARB ARROW
1F880;WIDE-HEADED LEFTWARDS VERY HEAVY BARB ARROW;aUPWARDS VERY HEAVY BARB ARROW
1F882;WIDE-HEADED RIGHTWARDS VERY HEAVY BARB ARROW;aDOWNWARDS VERY HEAVY BARB ARROW
1F884;WIDE-HEADED NORTH WEST VERY HEAVY BARB ARROW;bEAST VERY HEAVY BARB ARROW
1F886;WIDE-HEADED SOUTH EAST VERY HEAVY BARB ARROW;bWEST VERY HEAVY BARB ARROW
1F890;LEFTWARDS TRIANGLE ARROWHEAD;UPWARDS TRIANGLE ARROWHEAD;RIGHTWARDS TRIANGLE ARROWHEAD
1F893;DOWNWARDS TRIANGLE ARROWHEAD;LEFTWARDS WHITE ARROW WITHIN TRIANGLE ARROWHEAD
1F895;UPWARDS WHITE ARROW WITHIN TRIANGLE ARROWHEAD
1F896;RIGHTWARDS WHITE ARROW WITHIN TRIANGLE ARROWHEAD
1F897;DOWNWARDS WHITE ARROW WITHIN TRIANGLE ARROWHEAD;LEFTWARDS ARROW WITH NOTCHED TAIL
1F899;UPWARDS ARROW WITH NOTCHED TAIL;RIGHTWARDS ARROW WITH NOTCHED TAIL
1F89B;DOWNWARDS ARROW WITH NOTCHED TAIL;HEAVY ARROW SHAFT WIDTH ONE;dTWO THIRDS;dONE HALF;eTHIRD
1F8A0;LEFTWARDS BOTTOM-SHADED WHITE ARROW;RIGHTWARDS BOTTOM SHADED WHITE ARROW
1F8A2;LEFTWARDS TOP SHADED WHITE ARROW;RIGHTWARDS TOP SHADED WHITE ARROW
1F8A4;LEFTWARDS LEFT-SHADED WHITE ARROW;RIGHTWARDS RIGHT-SHADED WHITE ARROW
1F8A6;LEFTWARDS RIGHT-SHADED WHITE ARROW;RIGHTWARDS LEFT-SHADED WHITE ARROW
1F8A8;LEFTWARDS BACK-TILTED SHADOWED WHITE ARROW;RIGHTWARDS BACK-TILTED SHADOWED WHITE ARROW
1F8AA;LEFTWARDS FRONT-TILTED SHADOWED WHITE ARROW;RIGHTWARDS FRONT-TILTED SHADOWED WHITE ARROW
1F8AC;WHITE ARROW SHAFT WIDTH ONE;dTWO THIRDS
1F8B0;ARROW POINTING UPWARDS THEN NORTH WEST;bRIGHTWARDS THEN CURVING SOUTH WEST
1F900;CIRCLED CROSS FORMEE WITH FOUR DOTS;dTWO DOTS;bFORMEE;LEFT HALF CIRCLE WITH FOUR DOTS
1F904;LEFT HALF CIRCLE WITH THREE DOTS;dTWO DOTS;dDOT;bCIRCLE;DOWNWARD FACING HOOK;bNOTCHED HOOK
1F90A;DOWNWARD FACING HOOK WITH DOT;bNOTCHED HOOK WITH DOT;PINCHED FINGERS;WHITE HEART;BROWN HEART
1F90F;PINCHING HAND;ZIPPER-MOUTH FACE;MONEY-MOUTH FACE;FACE WITH THERMOMETER;NERD FACE
1F914;THINKING FACE;FACE WITH HEAD-BANDAGE;ROBOT FACE;HUGGING FACE;SIGN OF THE HORNS;CALL ME HAND
1F91A;RAISED BACK OF HAND;LEFT-FACING FIST;RIGHT-FACING FIST;HANDSHAKE
1F91E;HAND WITH INDEX AND MIDDLE FINGERS CROSSED;I LOVE YOU HAND SIGN;FACE WITH COWBOY HAT
1F921;CLOWN FACE;NAUSEATED FACE;ROLLING ON THE FLOOR LAUGHING;DROOLING FACE;LYING FACE;FACE PALM
1F927;SNEEZING FACE;FACE WITH ONE EYEBROW RAISED;GRINNING FACE WITH STAR EYES
1F92A;GRINNING FACE WITH ONE LARGE AND ONE SMALL EYE;FACE WITH FINGER COVERING CLOSED LIPS
1F92C;SERIOUS FACE WITH SYMBOLS COVERING MOUTH
1F92D;SMILING FACE WITH SMILING EYES AND HAND COVERING MOUTH;FACE WITH OPEN MOUTH VOMITING
1F92F;SHOCKED FACE WITH EXPLODING HEAD;PREGNANT WOMAN;BREAST-FEEDING;PALMS UP TOGETHER;SELFIE
1F934;PRINCE;MAN IN TUXEDO;MOTHER CHRISTMAS;SHRUG;PERSON DOING CARTWHEEL;JUGGLING;FENCER
1F93B;MODERN PENTATHLON;WRESTLERS;WATER POLO;HANDBALL;DIVING MASK;WILTED FLOWER
1F941;DRUM WITH DRUMSTICKS;CLINKING GLASSES;TUMBLER GLASS;SPOON;GOAL NET;RIFLE;FIRST PLACE MEDAL
1F948;SECOND PLACE MEDAL;THIRD PLACE MEDAL;BOXING GLOVE;MARTIAL ARTS UNIFORM;CURLING STONE
1F94D;LACROSSE STICK AND BALL;SOFTBALL;FLYING DISC;CROISSANT;AVOCADO;CUCUMBER;BACON;POTATO;CARROT
1F956;BAGUETTE BREAD;GREEN SALAD;SHALLOW PAN OF FOOD;STUFFED FLATBREAD;EGG;GLASS OF MILK;PEANUTS
1F95D;KIWIFRUIT;PANCAKES;DUMPLING;FORTUNE COOKIE;TAKEOUT BOX;CHOPSTICKS;BOWL WITH SPOON
1F964;CUP WITH STRAW;COCONUT;BROCCOLI;PIE;PRETZEL;CUT OF MEAT;SANDWICH;CANNED FOOD;LEAFY GREEN
1F96D;MANGO;MOON CAKE;BAGEL;SMILING FACE WITH SMILING EYES AND THREE HEARTS;YAWNING FACE
1F972;SMILING FACE WITH TEAR;FACE WITH PARTY HORN AND PARTY HAT;bUNEVEN EYES AND WAVY MOUTH
1F975;OVERHEATED FACE;FREEZING FACE;NINJA;DISGUISED FACE;FACE HOLDING BACK TEARS
1F97A;FACE WITH PLEADING EYES;SARI;LAB COAT;GOGGLES;HIKING BOOT;FLAT SHOE;CRAB;LION FACE;SCORPION
1F983;TURKEY;UNICORN FACE;EAGLE;DUCK;BAT;SHARK;OWL;FOX FACE;BUTTERFLY;DEER;GORILLA;LIZARD
1F98F;RHINOCEROS;SHRIMP;SQUID;GIRAFFE FACE;ZEBRA FACE;HEDGEHOG;SAUROPOD;T-REX;CRICKET;KANGAROO
1F999;LLAMA;PEACOCK;HIPPOPOTAMUS;PARROT;RACCOON;LOBSTER;MOSQUITO;MICROBE;BADGER;SWAN;MAMMOTH;DODO
1F9A5;SLOTH;OTTER;ORANGUTAN;SKUNK;FLAMINGO;OYSTER;BEAVER;BISON;SEAL;GUIDE DOG;PROBING CANE
1F9B0;EMOJI COMPONENT RED HAIR;bCURLY HAIR;bBALD;bWHITE HAIR;BONE;LEG;FOOT;TOOTH;SUPERHERO
1F9B9;SUPERVILLAIN;SAFETY VEST;EAR WITH HEARING AID;MOTORIZED WHEELCHAIR;MANUAL WHEELCHAIR
1F9BE;MECHANICAL ARM;aLEG;CHEESE WEDGE;CUPCAKE;SALT SHAKER;BEVERAGE BOX;GARLIC;ONION;FALAFEL
1F9C7;WAFFLE;BUTTER;MATE DRINK;ICE CUBE;BUBBLE TEA;TROLL;STANDING PERSON;KNEELING PERSON
1F9CF;DEAF PERSON;FACE WITH MONOCLE;ADULT;CHILD;OLDER ADULT;BEARDED PERSON;PERSON WITH HEADSCARF
1F9D6;PERSON IN STEAMY ROOM;aCLIMBING;aIN LOTUS POSITION;MAGE;FAIRY;VAMPIRE;MERPERSON;ELF;GENIE
1F9DF;ZOMBIE;BRAIN;ORANGE HEART;BILLED CAP;SCARF;GLOVES;COAT;SOCKS;RED GIFT ENVELOPE;FIRECRACKER
1F9E9;JIGSAW PUZZLE PIECE;TEST TUBE;PETRI DISH;DNA DOUBLE HELIX;COMPASS;ABACUS;FIRE EXTINGUISHER
1F9F0;TOOLBOX;BRICK;MAGNET;LUGGAGE;LOTION BOTTLE;SPOOL OF THREAD;BALL OF YARN;SAFETY PIN
1F9F8;TEDDY BEAR;BROOM;BASKET;ROLL OF PAPER;BAR OF SOAP;SPONGE;RECEIPT;NAZAR AMULET
1FA00;NEUTRAL CHESS KING;bQUEEN;bROOK;bBISHOP;bKNIGHT;bPAWN
1FA06;WHITE CHESS KNIGHT ROTATED FORTY-FIVE DEGREES;BLACK CHESS KNIGHT ROTATED FORTY-FIVE DEGREES
1FA08;NEUTRAL CHESS KNIGHT ROTATED FORTY-FIVE DEGREES;WHITE CHESS KING ROTATED NINETY DEGREES
1FA0A;WHITE CHESS QUEEN ROTATED NINETY DEGREES;bROOK ROTATED NINETY DEGREES
1FA0C;WHITE CHESS BISHOP ROTATED NINETY DEGREES;bKNIGHT ROTATED NINETY DEGREES
1FA0E;WHITE CHESS PAWN ROTATED NINETY DEGREES;BLACK CHESS KING ROTATED NINETY DEGREES
1FA10;BLACK CHESS QUEEN ROTATED NINETY DEGREES;bROOK ROTATED NINETY DEGREES
1FA12;BLACK CHESS BISHOP ROTATED NINETY DEGREES;bKNIGHT ROTATED NINETY DEGREES
1FA14;BLACK CHESS PAWN ROTATED NINETY DEGREES;NEUTRAL CHESS KING ROTATED NINETY DEGREES
1FA16;NEUTRAL CHESS QUEEN ROTATED NINETY DEGREES;bROOK ROTATED NINETY DEGREES
1FA18;NEUTRAL CHESS BISHOP ROTATED NINETY DEGREES;bKNIGHT ROTATED NINETY DEGREES
1FA1A;NEUTRAL CHESS PAWN ROTATED NINETY DEGREES
1FA1B;WHITE CHESS KNIGHT ROTATED ONE HUNDRED THIRTY-FIVE DEGREES
1FA1C;BLACK CHESS KNIGHT ROTATED ONE HUNDRED THIRTY-FIVE DEGREES
1FA1D;NEUTRAL CHESS KNIGHT ROTATED ONE HUNDRED THIRTY-FIVE DEGREES;WHITE CHESS TURNED KING;cQUEEN
1FA20;WHITE CHESS TURNED ROOK;cBISHOP;cKNIGHT;cPAWN;BLACK CHESS TURNED KING;cQUEEN;cROOK;cBISHOP
1FA28;BLACK CHESS TURNED KNIGHT;cPAWN;NEUTRAL CHESS TURNED KING;cQUEEN;cROOK;cBISHOP;cKNIGHT;cPAWN
1FA30;WHITE CHESS KNIGHT ROTATED TWO HUNDRED TWENTY-FIVE DEGREES
1FA31;BLACK CHESS KNIGHT ROTATED TWO HUNDRED TWENTY-FIVE DEGREES
1FA32;NEUTRAL CHESS KNIGHT ROTATED TWO HUNDRED TWENTY-FIVE DEGREES
1FA33;WHITE CHESS KING ROTATED TWO HUNDRED SEVENTY DEGREES
1FA34;WHITE CHESS QUEEN ROTATED TWO HUNDRED SEVENTY DEGREES
1FA35;WHITE CHESS ROOK ROTATED TWO HUNDRED SEVENTY DEGREES
1FA36;WHITE CHESS BISHOP ROTATED TWO HUNDRED SEVENTY DEGREES
1FA37;WHITE CHESS KNIGHT ROTATED TWO HUNDRED SEVENTY DEGREES
1FA38;WHITE CHESS PAWN ROTATED TWO HUNDRED SEVENTY DEGREES
1FA39;BLACK CHESS KING ROTATED TWO HUNDRED SEVENTY DEGREES
1FA3A;BLACK CHESS QUEEN ROTATED TWO HUNDRED SEVENTY DEGREES
1FA3B;BLACK CHESS ROOK ROTATED TWO HUNDRED SEVENTY DEGREES
1FA3C;BLACK CHESS BISHOP ROTATED TWO HUNDRED SEVENTY DEGREES
1FA3D;BLACK CHESS KNIGHT ROTATED TWO HUNDRED SEVENTY DEGREES
1FA3E;BLACK CHESS PAWN ROTATED TWO HUNDRED SEVENTY DEGREES
1FA3F;NEUTRAL CHESS KING ROTATED TWO HUNDRED SEVENTY DEGREES
1FA40;NEUTRAL CHESS QUEEN ROTATED TWO HUNDRED SEVENTY DEGREES
1FA41;NEUTRAL CHESS ROOK ROTATED TWO HUNDRED SEVENTY DEGREES
1FA42;NEUTRAL CHESS BISHOP ROTATED TWO HUNDRED SEVENTY DEGREES
1FA43;NEUTRAL CHESS KNIGHT ROTATED TWO HUNDRED SEVENTY DEGREES
1FA44;NEUTRAL CHESS PAWN ROTATED TWO HUNDRED SEVENTY DEGREES
1FA45;WHITE CHESS KNIGHT ROTATED THREE HUNDRED FIFTEEN DEGREES
1FA46;BLACK CHESS KNIGHT ROTATED THREE HUNDRED FIFTEEN DEGREES
1FA47;NEUTRAL CHESS KNIGHT ROTATED THREE HUNDRED FIFTEEN DEGREES;WHITE CHESS EQUIHOPPER
1FA49;BLACK CHESS EQUIHOPPER;NEUTRAL CHESS EQUIHOPPER
1FA4B;WHITE CHESS EQUIHOPPER ROTATED NINETY DEGREES;BLACK CHESS EQUIHOPPER ROTATED NINETY DEGREES
1FA4D;NEUTRAL CHESS EQUIHOPPER ROTATED NINETY DEGREES;WHITE CHESS KNIGHT-QUEEN;bKNIGHT-ROOK
1FA50;WHITE CHESS KNIGHT-BISHOP;BLACK CHESS KNIGHT-QUEEN;bKNIGHT-ROOK;bKNIGHT-BISHOP
1FA60;XIANGQI RED GENERAL;bMANDARIN;bELEPHANT;bHORSE;bCHARIOT;bCANNON;bSOLDIER;aBLACK GENERAL
1FA68;XIANGQI BLACK MANDARIN;bELEPHANT;bHORSE;bCHARIOT;bCANNON;bSOLDIER
1FA70;BALLET SHOES;ONE-PIECE SWIMSUIT;BRIEFS;SHORTS;THONG SANDAL
1FA78;DROP OF BLOOD;ADHESIVE BANDAGE;STETHOSCOPE;X-RAY;CRUTCH
1FA80;YO-YO;KITE;PARACHUTE;BOOMERANG;MAGIC WAND;PINATA;NESTING DOLLS
1FA90;RINGED PLANET;CHAIR;RAZOR;AXE;DIYA LAMP;BANJO;MILITARY HELMET;ACCORDION;LONG DRUM;COIN
1FA9A;CARPENTRY SAW;SCREWDRIVER;LADDER;HOOK;MIRROR;WINDOW;PLUNGER;SEWING NEEDLE;KNOT;BUCKET
1FAA4;MOUSE TRAP;TOOTHBRUSH;HEADSTONE;PLACARD;ROCK;MIRROR BALL;IDENTIFICATION CARD;LOW BATTERY
1FAAC;HAMSA
1FAB0;FLY;WORM;BEETLE;COCKROACH;POTTED PLANT;WOOD;FEATHER;LOTUS;CORAL;EMPTY NEST;NEST WITH EGGS
1FAC0;ANATOMICAL HEART;LUNGS;PEOPLE HUGGING;PREGNANT MAN;aPERSON;PERSON WITH CROWN
1FAD0;BLUEBERRIES;BELL PEPPER;OLIVE;FLATBREAD;TAMALE;FONDUE;TEAPOT;POURING LIQUID;BEANS;JAR
1FAE0;MELTING FACE;SALUTING FACE;FACE WITH OPEN EYES AND HAND OVER MOUTH;bPEEKING EYE
1FAE4;FACE WITH DIAGONAL MOUTH;DOTTED LINE FACE;BITING LIP;BUBBLES
1FAF0;HAND WITH INDEX FINGER AND THUMB CROSSED;RIGHTWARDS HAND;LEFTWARDS HAND;PALM DOWN HAND
1FAF4;PALM UP HAND;INDEX POINTING AT THE VIEWER;HEART HANDS
1FB00;BLOCK SEXTANT-1;aSEXTANT-2;aSEXTANT-12;aSEXTANT-3;aSEXTANT-13;aSEXTANT-23;aSEXTANT-123
1FB07;BLOCK SEXTANT-4;aSEXTANT-14;aSEXTANT-24;aSEXTANT-124;aSEXTANT-34;aSEXTANT-134;aSEXTANT-234
1FB0E;BLOCK SEXTANT-1234;aSEXTANT-5;aSEXTANT-15;aSEXTANT-25;aSEXTANT-125;aSEXTANT-35;aSEXTANT-235
1FB15;BLOCK SEXTANT-1235;aSEXTANT-45;aSEXTANT-145;aSEXTANT-245;aSEXTANT-1245;aSEXTANT-345
1FB1B;BLOCK SEXTANT-1345;aSEXTANT-2345;aSEXTANT-12345;aSEXTANT-6;aSEXTANT-16;aSEXTANT-26
1FB21;BLOCK SEXTANT-126;aSEXTANT-36;aSEXTANT-136;aSEXTANT-236;aSEXTANT-1236;aSEXTANT-46
1FB27;BLOCK SEXTANT-146;aSEXTANT-1246;aSEXTANT-346;aSEXTANT-1346;aSEXTANT-2346;aSEXTANT-12346
1FB2D;BLOCK SEXTANT-56;aSEXTANT-156;aSEXTANT-256;aSEXTANT-1256;aSEXTANT-356;aSEXTANT-1356
1FB33;BLOCK SEXTANT-2356;aSEXTANT-12356;aSEXTANT-456;aSEXTANT-1456;aSEXTANT-2456;aSEXTANT-12456
1FB39;BLOCK SEXTANT-3456;aSEXTANT-13456;aSEXTANT-23456
1FB3C;LOWER LEFT BLOCK DIAGONAL LOWER MIDDLE LEFT TO LOWER CENTRE;iRIGHT
1FB3E;LOWER LEFT BLOCK DIAGONAL UPPER MIDDLE LEFT TO LOWER CENTRE;iRIGHT;eLEFT TO LOWER CENTRE
1FB41;LOWER RIGHT BLOCK DIAGONAL UPPER MIDDLE LEFT TO UPPER CENTRE;iRIGHT
1FB43;LOWER RIGHT BLOCK DIAGONAL LOWER MIDDLE LEFT TO UPPER CENTRE;iRIGHT;eLEFT TO UPPER CENTRE
1FB46;LOWER RIGHT BLOCK DIAGONAL LOWER MIDDLE LEFT TO UPPER MIDDLE RIGHT
1FB47;LOWER RIGHT BLOCK DIAGONAL LOWER CENTRE TO LOWER MIDDLE RIGHT;eLEFT TO LOWER MIDDLE RIGHT
1FB49;LOWER RIGHT BLOCK DIAGONAL LOWER CENTRE TO UPPER MIDDLE RIGHT;eLEFT TO UPPER MIDDLE RIGHT
1FB4B;LOWER RIGHT BLOCK DIAGONAL LOWER CENTRE TO UPPER RIGHT
1FB4C;LOWER LEFT BLOCK DIAGONAL UPPER CENTRE TO UPPER MIDDLE RIGHT;eLEFT TO UPPER MIDDLE RIGHT
1FB4E;LOWER LEFT BLOCK DIAGONAL UPPER CENTRE TO LOWER MIDDLE RIGHT;eLEFT TO LOWER MIDDLE RIGHT
1FB50;LOWER LEFT BLOCK DIAGONAL UPPER CENTRE TO LOWER RIGHT;eMIDDLE LEFT TO LOWER MIDDLE RIGHT
1FB52;UPPER RIGHT BLOCK DIAGONAL LOWER MIDDLE LEFT TO LOWER CENTRE;iRIGHT
1FB54;UPPER RIGHT BLOCK DIAGONAL UPPER MIDDLE LEFT TO LOWER CENTRE;iRIGHT;eLEFT TO LOWER CENTRE
1FB57;UPPER LEFT BLOCK DIAGONAL UPPER MIDDLE LEFT TO UPPER CENTRE;iRIGHT
1FB59;UPPER LEFT BLOCK DIAGONAL LOWER MIDDLE LEFT TO UPPER CENTRE;iRIGHT;eLEFT TO UPPER CENTRE
1FB5C;UPPER LEFT BLOCK DIAGONAL LOWER MIDDLE LEFT TO UPPER MIDDLE RIGHT
1FB5D;UPPER LEFT BLOCK DIAGONAL LOWER CENTRE TO LOWER MIDDLE RIGHT;eLEFT TO LOWER MIDDLE RIGHT
1FB5F;UPPER LEFT BLOCK DIAGONAL LOWER CENTRE TO UPPER MIDDLE RIGHT;eLEFT TO UPPER MIDDLE RIGHT
1FB61;UPPER LEFT BLOCK DIAGONAL LOWER CENTRE TO UPPER RIGHT
1FB62;UPPER RIGHT BLOCK DIAGONAL UPPER CENTRE TO UPPER MIDDLE RIGHT;eLEFT TO UPPER MIDDLE RIGHT
1FB64;UPPER RIGHT BLOCK DIAGONAL UPPER CENTRE TO LOWER MIDDLE RIGHT;eLEFT TO LOWER MIDDLE RIGHT
1FB66;UPPER RIGHT BLOCK DIAGONAL UPPER CENTRE TO LOWER RIGHT;eMIDDLE LEFT TO LOWER MIDDLE RIGHT
1FB68;UPPER AND RIGHT AND LOWER TRIANGULAR THREE QUARTERS BLOCK
1FB69;LEFT AND LOWER AND RIGHT TRIANGULAR THREE QUARTERS BLOCK
1FB6A;UPPER AND LEFT AND LOWER TRIANGULAR THREE QUARTERS BLOCK
1FB6B;LEFT AND UPPER AND RIGHT TRIANGULAR THREE QUARTERS BLOCK;aTRIANGULAR ONE QUARTER BLOCK
1FB6D;UPPER TRIANGULAR ONE QUARTER BLOCK;RIGHT TRIANGULAR ONE QUARTER BLOCK
1FB6F;LOWER TRIANGULAR ONE QUARTER BLOCK;VERTICAL ONE EIGHTH BLOCK-2;cBLOCK-3;cBLOCK-4;cBLOCK-5
1FB74;VERTICAL ONE EIGHTH BLOCK-6;cBLOCK-7;HORIZONTAL ONE EIGHTH BLOCK-2;cBLOCK-3;cBLOCK-4
1FB79;HORIZONTAL ONE EIGHTH BLOCK-5;cBLOCK-6;cBLOCK-7;LEFT AND LOWER ONE EIGHTH BLOCK
1FB7D;LEFT AND UPPER ONE EIGHTH BLOCK;RIGHT AND UPPER ONE EIGHTH BLOCK;bLOWER ONE EIGHTH BLOCK
1FB80;UPPER AND LOWER ONE EIGHTH BLOCK;HORIZONTAL ONE EIGHTH BLOCK-1358;UPPER ONE QUARTER BLOCK
1FB83;UPPER THREE EIGHTHS BLOCK;aFIVE EIGHTHS BLOCK;aTHREE QUARTERS BLOCK;aSEVEN EIGHTHS BLOCK
1FB87;RIGHT ONE QUARTER BLOCK;aTHREE EIGHTHS BLOCK;aFIVE EIGHTHS BLOCK;aTHREE QUARTERS BLOCK
1FB8B;RIGHT SEVEN EIGHTHS BLOCK;LEFT HALF MEDIUM SHADE;RIGHT HALF MEDIUM SHADE
1FB8E;UPPER HALF MEDIUM SHADE;LOWER HALF MEDIUM SHADE;INVERSE MEDIUM SHADE
1FB91;UPPER HALF BLOCK AND LOWER HALF INVERSE MEDIUM SHADE
1FB92;UPPER HALF INVERSE MEDIUM SHADE AND LOWER HALF BLOCK
1FB94;LEFT HALF INVERSE MEDIUM SHADE AND RIGHT HALF BLOCK;CHECKER BOARD FILL
1FB96;INVERSE CHECKER BOARD FILL;HEAVY HORIZONTAL FILL;UPPER LEFT TO LOWER RIGHT FILL
1FB99;UPPER RIGHT TO LOWER LEFT FILL;aAND LOWER TRIANGULAR HALF BLOCK
1FB9B;LEFT AND RIGHT TRIANGULAR HALF BLOCK;UPPER LEFT TRIANGULAR MEDIUM SHADE
1FB9D;UPPER RIGHT TRIANGULAR MEDIUM SHADE;LOWER RIGHT TRIANGULAR MEDIUM SHADE
1FB9F;LOWER LEFT TRIANGULAR MEDIUM SHADE;BOX DRAWINGS LIGHT DIAGONAL UPPER CENTRE TO MIDDLE LEFT
1FBA1;BOX DRAWINGS LIGHT DIAGONAL UPPER CENTRE TO MIDDLE RIGHT;dMIDDLE LEFT TO LOWER CENTRE
1FBA3;BOX DRAWINGS LIGHT DIAGONAL MIDDLE RIGHT TO LOWER CENTRE
1FBA4;BOX DRAWINGS LIGHT DIAGONAL UPPER CENTRE TO MIDDLE LEFT TO LOWER CENTRE
1FBA5;BOX DRAWINGS LIGHT DIAGONAL UPPER CENTRE TO MIDDLE RIGHT TO LOWER CENTRE
1FBA6;BOX DRAWINGS LIGHT DIAGONAL MIDDLE LEFT TO LOWER CENTRE TO MIDDLE RIGHT
1FBA7;BOX DRAWINGS LIGHT DIAGONAL MIDDLE LEFT TO UPPER CENTRE TO MIDDLE RIGHT
1FBA8;BOX DRAWINGS LIGHT DIAGONAL UPPER CENTRE TO MIDDLE LEFT AND MIDDLE RIGHT TO LOWER CENTRE
1FBA9;BOX DRAWINGS LIGHT DIAGONAL UPPER CENTRE TO MIDDLE RIGHT AND MIDDLE LEFT TO LOWER CENTRE
1FBAA;BOX DRAWINGS LIGHT DIAGONAL UPPER CENTRE TO MIDDLE RIGHT TO LOWER CENTRE TO MIDDLE LEFT
1FBAB;BOX DRAWINGS LIGHT DIAGONAL UPPER CENTRE TO MIDDLE LEFT TO LOWER CENTRE TO MIDDLE RIGHT
1FBAC;BOX DRAWINGS LIGHT DIAGONAL MIDDLE LEFT TO UPPER CENTRE TO MIDDLE RIGHT TO LOWER CENTRE
1FBAD;BOX DRAWINGS LIGHT DIAGONAL MIDDLE RIGHT TO UPPER CENTRE TO MIDDLE LEFT TO LOWER CENTRE
1FBAE;BOX DRAWINGS LIGHT DIAGONAL DIAMOND;cHORIZONTAL WITH VERTICAL STROKE
1FBB0;ARROWHEAD-SHAPED POINTER;INVERSE CHECK MARK;LEFT HALF RUNNING MAN;RIGHT HALF RUNNING MAN
1FBB4;INVERSE DOWNWARDS ARROW WITH TIP LEFTWARDS
1FBB5;LEFTWARDS ARROW AND UPPER AND LOWER ONE EIGHTH BLOCK
1FBB6;RIGHTWARDS ARROW AND UPPER AND LOWER ONE EIGHTH BLOCK
1FBB7;DOWNWARDS ARROW AND RIGHT ONE EIGHTH BLOCK;UPWARDS ARROW AND RIGHT ONE EIGHTH BLOCK
1FBB9;LEFT HALF FOLDER;RIGHT HALF FOLDER;VOIDED GREEK CROSS;RIGHT OPEN SQUARED DOT
1FBBD;NEGATIVE DIAGONAL CROSS;bMIDDLE RIGHT TO LOWER CENTRE;bDIAMOND
1FBC0;WHITE HEAVY SALTIRE WITH ROUNDED CORNERS;LEFT THIRD WHITE RIGHT POINTING INDEX
1FBC2;MIDDLE THIRD WHITE RIGHT POINTING INDEX;RIGHT THIRD WHITE RIGHT POINTING INDEX
1FBC4;NEGATIVE SQUARED QUESTION MARK;STICK FIGURE;bWITH ARMS RAISED;bLEANING LEFT;cRIGHT
1FBC9;STICK FIGURE WITH DRESS;WHITE UP-POINTING CHEVRON
1FBF0;SEGMENTED DIGIT ZERO;bONE;bTWO;bTHREE;bFOUR;bFIVE;bSIX;bSEVEN;bEIGHT;bNINE
E0001;LANGUAGE TAG
E0020;TAG SPACE;aEXCLAMATION MARK;aQUOTATION MARK;aNUMBER SIGN;aDOLLAR SIGN;aPERCENT SIGN
E0026;TAG AMPERSAND;aAPOSTROPHE;aLEFT PARENTHESIS;aRIGHT PARENTHESIS;aASTERISK;aPLUS SIGN;aCOMMA
E002D;TAG HYPHEN-MINUS;aFULL STOP;aSOLIDUS;aDIGIT ZERO;bONE;bTWO;bTHREE;bFOUR;bFIVE;bSIX;bSEVEN
E0038;TAG DIGIT EIGHT;bNINE;aCOLON;aSEMICOLON;aLESS-THAN SIGN;aEQUALS SIGN;aGREATER-THAN SIGN
E003F;TAG QUESTION MARK;aCOMMERCIAL AT;aLATIN CAPITAL LETTER A;dB;dC;dD;dE;dF;dG;dH;dI;dJ;dK;dL;dM
E004E;TAG LATIN CAPITAL LETTER N;dO;dP;dQ;dR;dS;dT;dU;dV;dW;dX;dY;dZ;aLEFT SQUARE BRACKET
E005C;TAG REVERSE SOLIDUS;aRIGHT SQUARE BRACKET;aCIRCUMFLEX ACCENT;aLOW LINE;aGRAVE ACCENT
E0061;TAG LATIN SMALL LETTER A;dB;dC;dD;dE;dF;dG;dH;dI;dJ;dK;dL;dM;dN;dO;dP;dQ;dR;dS;dT;dU;dV;dW
E0078;TAG LATIN SMALL LETTER X;dY;dZ;aLEFT CURLY BRACKET;aVERTICAL LINE;aRIGHT CURLY BRACKET
E007E;TAG TILDE;CANCEL TAG
E0100;VARIATION SELECTOR-17;aSELECTOR-18;aSELECTOR-19;aSELECTOR-20;aSELECTOR-21;aSELECTOR-22
E0106;VARIATION SELECTOR-23;aSELECTOR-24;aSELECTOR-25;aSELECTOR-26;aSELECTOR-27;aSELECTOR-28
E010C;VARIATION SELECTOR-29;aSELECTOR-30;aSELECTOR-31;aSELECTOR-32;aSELECTOR-33;aSELECTOR-34
E0112;VARIATION SELECTOR-35;aSELECTOR-36;aSELECTOR-37;aSELECTOR-38;aSELECTOR-39;aSELECTOR-40
E0118;VARIATION SELECTOR-41;aSELECTOR-42;aSELECTOR-43;aSELECTOR-44;aSELECTOR-45;aSELECTOR-46
E011E;VARIATION SELECTOR-47;aSELECTOR-48;aSELECTOR-49;aSELECTOR-50;aSELECTOR-51;aSELECTOR-52
E0124;VARIATION SELECTOR-53;aSELECTOR-54;aSELECTOR-55;aSELECTOR-56;aSELECTOR-57;aSELECTOR-58
E012A;VARIATION SELECTOR-59;aSELECTOR-60;aSELECTOR-61;aSELECTOR-62;aSELECTOR-63;aSELECTOR-64
E0130;VARIATION SELECTOR-65;aSELECTOR-66;aSELECTOR-67;aSELECTOR-68;aSELECTOR-69;aSELECTOR-70
E0136;VARIATION SELECTOR-71;aSELECTOR-72;aSELECTOR-73;aSELECTOR-74;aSELECTOR-75;aSELECTOR-76
E013C;VARIATION SELECTOR-77;aSELECTOR-78;aSELECTOR-79;aSELECTOR-80;aSELECTOR-81;aSELECTOR-82
E0142;VARIATION SELECTOR-83;aSELECTOR-84;aSELECTOR-85;aSELECTOR-86;aSELECTOR-87;aSELECTOR-88
E0148;VARIATION SELECTOR-89;aSELECTOR-90;aSELECTOR-91;aSELECTOR-92;aSELECTOR-93;aSELECTOR-94
E014E;VARIATION SELECTOR-95;aSELECTOR-96;aSELECTOR-97;aSELECTOR-98;aSELECTOR-99;aSELECTOR-100
E0154;VARIATION SELECTOR-101;aSELECTOR-102;aSELECTOR-103;aSELECTOR-104;aSELECTOR-105;aSELECTOR-106
E015A;VARIATION SELECTOR-107;aSELECTOR-108;aSELECTOR-109;aSELECTOR-110;aSELECTOR-111;aSELECTOR-112
E0160;VARIATION SELECTOR-113;aSELECTOR-114;aSELECTOR-115;aSELECTOR-116;aSELECTOR-117;aSELECTOR-118
E0166;VARIATION SELECTOR-119;aSELECTOR-120;aSELECTOR-121;aSELECTOR-122;aSELECTOR-123;aSELECTOR-124
E016C;VARIATION SELECTOR-125;aSELECTOR-126;aSELECTOR-127;aSELECTOR-128;aSELECTOR-129;aSELECTOR-130
E0172;VARIATION SELECTOR-131;aSELECTOR-132;aSELECTOR-133;aSELECTOR-134;aSELECTOR-135;aSELECTOR-136
E0178;VARIATION SELECTOR-137;aSELECTOR-138;aSELECTOR-139;aSELECTOR-140;aSELECTOR-141;aSELECTOR-142
E017E;VARIATION SELECTOR-143;aSELECTOR-144;aSELECTOR-145;aSELECTOR-146;aSELECTOR-147;aSELECTOR-148
E0184;VARIATION SELECTOR-149;aSELECTOR-150;aSELECTOR-151;aSELECTOR-152;aSELECTOR-153;aSELECTOR-154
E018A;VARIATION SELECTOR-155;aSELECTOR-156;aSELECTOR-157;aSELECTOR-158;aSELECTOR-159;aSELECTOR-160
E0190;VARIATION SELECTOR-161;aSELECTOR-162;aSELECTOR-163;aSELECTOR-164;aSELECTOR-165;aSELECTOR-166
E0196;VARIATION SELECTOR-167;aSELECTOR-168;aSELECTOR-169;aSELECTOR-170;aSELECTOR-171;aSELECTOR-172
E019C;VARIATION SELECTOR-173;aSELECTOR-174;aSELECTOR-175;aSELECTOR-176;aSELECTOR-177;aSELECTOR-178
E01A2;VARIATION SELECTOR-179;aSELECTOR-180;aSELECTOR-181;aSELECTOR-182;aSELECTOR-183;aSELECTOR-184
E01A8;VARIATION SELECTOR-185;aSELECTOR-186;aSELECTOR-187;aSELECTOR-188;aSELECTOR-189;aSELECTOR-190
E01AE;VARIATION SELECTOR-191;aSELECTOR-192;aSELECTOR-193;aSELECTOR-194;aSELECTOR-195;aSELECTOR-196
E01B4;VARIATION SELECTOR-197;aSELECTOR-198;aSELECTOR-199;aSELECTOR-200;aSELECTOR-201;aSELECTOR-202
E01BA;VARIATION SELECTOR-203;aSELECTOR-204;aSELECTOR-205;aSELECTOR-206;aSELECTOR-207;aSELECTOR-208
E01C0;VARIATION SELECTOR-209;aSELECTOR-210;aSELECTOR-211;aSELECTOR-212;aSELECTOR-213;aSELECTOR-214
E01C6;VARIATION SELECTOR-215;aSELECTOR-216;aSELECTOR-217;aSELECTOR-218;aSELECTOR-219;aSELECTOR-220
E01CC;VARIATION SELECTOR-221;aSELECTOR-222;aSELECTOR-223;aSELECTOR-224;aSELECTOR-225;aSELECTOR-226
E01D2;VARIATION SELECTOR-227;aSELECTOR-228;aSELECTOR-229;aSELECTOR-230;aSELECTOR-231;aSELECTOR-232
E01D8;VARIATION SELECTOR-233;aSELECTOR-234;aSELECTOR-235;aSELECTOR-236;aSELECTOR-237;aSELECTOR-238
E01DE;VARIATION SELECTOR-239;aSELECTOR-240;aSELECTOR-241;aSELECTOR-242;aSELECTOR-243;aSELECTOR-244
E01E4;VARIATION SELECTOR-245;aSELECTOR-246;aSELECTOR-247;aSELECTOR-248;aSELECTOR-249;aSELECTOR-250
E01EA;VARIATION SELECTOR-251;aSELECTOR-252;aSELECTOR-253;aSELECTOR-254;aSELECTOR-255;aSELECTOR-256"

end RecordSchema.Text.CharacterName
